import CloudioOrchestrator.Interaction.Pool

/-! # Two pools side by side

A coupling relates the worlds of two pools and, one by one, their programs; what
it says may depend on a mark that grows as the pools run. A step of both, with
choices and events that belong together, leads to related worlds again, and is
one that every other pair of programs puts up with.
-/

namespace Interaction

variable {S : Signature} {ι α : Type} {V : Service S ι}

/-- Serve one operation of a program that has not returned. -/
def Prog.advance (V : Service S ι) (client : Client ι) (choice : V.Choice) :
    Prog S α → V.World → Prog S α × V.World
  | .ret value, world => (.ret value, world)
  | .call op next, world =>
      (next (V.serve client choice op world).1, (V.serve client choice op world).2)

section Advance

variable {program : ι → Prog S α} {pool : Pool V α} {serial : ℕ} {subject : ι} {body : Prog S α}

theorem Pool.step_advance (choice : V.Choice)
    (hthread : pool.threads[serial]? = some (subject, body)) :
    pool.step program (.advance serial choice) =
      { world := (body.advance V ⟨subject, serial⟩ choice pool.world).2
        threads := pool.threads.set serial
          (subject, (body.advance V ⟨subject, serial⟩ choice pool.world).1) } := by
  obtain ⟨hlength, hget⟩ := List.getElem?_eq_some_iff.mp hthread
  cases body with
  | ret value =>
      have hsame : pool.threads.set serial (subject, .ret value) = pool.threads := by
        rw [← hget, List.set_getElem_self]
      simp only [step, hthread, Prog.advance, hsame]
  | call op next => simp [step, hthread, Prog.advance]

theorem Pool.step_advance_none (choice : V.Choice) (hthread : pool.threads[serial]? = none) :
    pool.step program (.advance serial choice) = pool := by
  simp [step, hthread]

end Advance

/-- Moves that are one but for choices and events that belong together. -/
inductive Move.Beside (choices : V.Choice → V.Choice → Prop)
    (events : V.Outside → V.Outside → Prop) : Move V → Move V → Prop
  | start (subject : ι) : Beside choices events (.start subject) (.start subject)
  | advance (serial : ℕ) {choice picked : V.Choice} (hchoice : choices choice picked) :
      Beside choices events (.advance serial choice) (.advance serial picked)
  | outside {event other : V.Outside} (hevent : events event other) :
      Beside choices events (.outside event) (.outside other)

structure Coupling (V : Service S ι) (program : ι → Prog S α) where
  Mark : Type
  worlds : Mark → V.World → V.World → Prop
  beside : Mark → V.World → V.World → Client ι → Prog S α → Prog S α → Prop
  /-- What a step of both keeps for the programs it does not advance. -/
  follows : Mark → V.World → V.World → Mark → V.World → V.World → Prop
  choices : V.Choice → V.Choice → Prop
  events : V.Outside → V.Outside → Prop
  start : ∀ mark world twin client,
    beside mark world twin client (program client.subject) (program client.subject)
  stable : ∀ {mark world twin after later other client body mate},
    beside mark world twin client body mate → follows mark world twin after later other →
    beside after later other client body mate
  advance : ∀ {mark world twin client body mate choice picked}, worlds mark world twin →
    beside mark world twin client body mate → choices choice picked →
    ∃ after,
      worlds after (body.advance V client choice world).2 (mate.advance V client picked twin).2 ∧
      follows mark world twin after (body.advance V client choice world).2
        (mate.advance V client picked twin).2 ∧
      beside after (body.advance V client choice world).2
        (mate.advance V client picked twin).2 client
        (body.advance V client choice world).1 (mate.advance V client picked twin).1
  outside : ∀ {mark world twin event other}, worlds mark world twin → events event other →
    ∃ after, worlds after (V.outside event world) (V.outside other twin) ∧
      follows mark world twin after (V.outside event world) (V.outside other twin)

namespace Coupling

variable {program : ι → Prog S α} (C : Coupling V program)

/-- Two pools side by side, thread by thread. -/
structure Coupled (mark : C.Mark) (pool twin : Pool V α) : Prop where
  worlds : C.worlds mark pool.world twin.world
  length : twin.threads.length = pool.threads.length
  threads : ∀ {serial subject body}, pool.threads[serial]? = some (subject, body) →
    ∃ mate, twin.threads[serial]? = some (subject, mate) ∧
      C.beside mark pool.world twin.world ⟨subject, serial⟩ body mate

variable {C} {mark : C.Mark} {pool twin : Pool V α}

theorem Coupled.start (hpools : C.Coupled mark pool twin) (subject : ι) :
    C.Coupled mark (pool.step program (.start subject)) (twin.step program (.start subject)) where
  worlds := hpools.worlds
  length := by simp [Pool.step, hpools.length]
  threads := by
    intro serial found body hfound
    simp only [Pool.step, List.getElem?_append, hpools.length] at hfound ⊢
    split at hfound
    next hold =>
      rw [if_pos hold]
      exact hpools.threads hfound
    next hnew =>
      obtain ⟨rfl, rfl⟩ : subject = found ∧ program subject = body := by
        have hmem := List.mem_of_getElem? hfound
        simpa [eq_comm] using hmem
      rw [if_neg hnew]
      exact ⟨program subject, hfound, C.start mark _ _ ⟨subject, serial⟩⟩

theorem Coupled.advance (hpools : C.Coupled mark pool twin) (serial : ℕ) {choice picked : V.Choice}
    (hchoice : C.choices choice picked) :
    ∃ after, C.Coupled after (pool.step program (.advance serial choice))
      (twin.step program (.advance serial picked)) := by
  cases hthread : pool.threads[serial]? with
  | none =>
      have htwin : twin.threads[serial]? = none := by
        rw [List.getElem?_eq_none_iff, hpools.length]
        exact List.getElem?_eq_none_iff.mp hthread
      rw [Pool.step_advance_none choice hthread, Pool.step_advance_none picked htwin]
      exact ⟨mark, hpools⟩
  | some thread =>
      obtain ⟨subject, body⟩ := thread
      obtain ⟨mate, hmate, hbeside⟩ := hpools.threads hthread
      obtain ⟨after, hworlds, hfollows, hadvanced⟩ := C.advance hpools.worlds hbeside hchoice
      rw [Pool.step_advance choice hthread, Pool.step_advance picked hmate]
      refine ⟨after, hworlds, ?_, ?_⟩
      · simp only [List.length_set, hpools.length]
      · intro other found program hfound
        have hlength := (List.getElem?_eq_some_iff.mp hthread).1
        have hlength' := (List.getElem?_eq_some_iff.mp hmate).1
        by_cases heq : serial = other
        · subst heq
          rw [List.getElem?_set_self hlength] at hfound
          obtain ⟨rfl, rfl⟩ := Prod.mk.inj (Option.some.inj hfound)
          exact ⟨_, List.getElem?_set_self hlength', hadvanced⟩
        · rw [List.getElem?_set_ne heq] at hfound ⊢
          obtain ⟨partner, hpartner, hheld⟩ := hpools.threads hfound
          exact ⟨partner, hpartner, C.stable hheld hfollows⟩

theorem Coupled.outside (hpools : C.Coupled mark pool twin) {event other : V.Outside}
    (hevent : C.events event other) :
    ∃ after, C.Coupled after (pool.step program (.outside event))
      (twin.step program (.outside other)) := by
  obtain ⟨after, hworlds, hfollows⟩ := C.outside hpools.worlds hevent
  refine ⟨after, hworlds, hpools.length, ?_⟩
  intro serial subject body hfound
  obtain ⟨mate, hmate, hheld⟩ := hpools.threads hfound
  exact ⟨mate, hmate, C.stable hheld hfollows⟩

theorem Coupled.step (hpools : C.Coupled mark pool twin) {move other : Move V}
    (hmove : move.Beside C.choices C.events other) :
    ∃ after, C.Coupled after (pool.step program move) (twin.step program other) := by
  cases hmove with
  | start subject => exact ⟨mark, hpools.start subject⟩
  | advance serial hchoice => exact hpools.advance serial hchoice
  | outside hevent => exact hpools.outside hevent

/-- A run of both, move by move. -/
theorem Coupled.run (hpools : C.Coupled mark pool twin) {moves others : List (Move V)}
    (hmoves : List.Forall₂ (Move.Beside C.choices C.events) moves others) :
    ∃ after, C.Coupled after (Pool.run program moves pool) (Pool.run program others twin) := by
  induction hmoves generalizing mark pool twin with
  | nil => exact ⟨mark, hpools⟩
  | cons hmove _ ih =>
      obtain ⟨after, hstep⟩ := hpools.step hmove
      exact ih hstep

/-- Two pools with no program yet are coupled where their worlds are related. -/
theorem Coupled.empty {world twin : V.World} (hworlds : C.worlds mark world twin) :
    C.Coupled mark ⟨world, []⟩ ⟨twin, []⟩ :=
  ⟨hworlds, rfl, by simp⟩

end Coupling

end Interaction

import CloudioOrchestrator.Interaction.Pool

/-! # A program alone

One program run to its end with the world to itself. What the environment
chooses may depend on how many operations have been served before.
-/

namespace Interaction

variable {S : Signature} {ι α β : Type}

/-- The world, and how many operations have been served so far. -/
abbrev Service.Progress (V : Service S ι) :=
  Nat × V.World

/-- Run a program to its end. -/
def Service.finish (V : Service S ι) (client : Client ι) (choose : Nat → V.Choice) :
    Prog S α → V.Progress → α × V.Progress
  | .ret value, progress => (value, progress)
  | .call op next, (count, world) =>
      V.finish client choose (next (V.serve client (choose count) op world).1)
        (count + 1, (V.serve client (choose count) op world).2)

variable {client : Client ι}

theorem Service.finish_bind (V : Service S ι) (choose : Nat → V.Choice) (program : Prog S α)
    (next : α → Prog S β) (progress : V.Progress) :
    V.finish client choose (program.bind next) progress =
      V.finish client choose (next (V.finish client choose program progress).1)
        (V.finish client choose program progress).2 := by
  induction program generalizing progress with
  | ret value => rfl
  | call op rest ih => exact ih _ _

/-- The service with only some of the choices. -/
abbrev Service.restrict (V : Service S ι) (allowed : V.Choice → Prop) : Service S ι where
  World := V.World
  Choice := { choice : V.Choice // allowed choice }
  Outside := V.Outside
  serve client choice := V.serve client choice.val
  outside := V.outside

/-- A program alone, where only some choices are made. -/
theorem Service.finish_restrict (V : Service S ι) {allowed : V.Choice → Prop}
    {choose : Nat → V.Choice} (hchoose : ∀ count, allowed (choose count)) (program : Prog S α)
    (progress : V.Progress) :
    (V.restrict allowed).finish client (fun count => ⟨choose count, hchoose count⟩) program
      progress = V.finish client choose program progress := by
  induction program generalizing progress with
  | ret value => rfl
  | call op next ih => exact ih _ _

/-- Nobody else acts, and nothing is asked of the program but what it ends in. -/
def Service.alone (V : Service S ι) : Discipline V where
  inv _ := True
  rely _ := Eq
  guar _ _ _ := True
  refl _ _ := rfl
  trans := Eq.trans

/-- A program that is safe alone ends as it should, whatever is chosen. -/
theorem Discipline.Safe.finish {V : Service S ι} (choose : Nat → V.Choice)
    {post : α → V.World → Prop} {program : Prog S α} (progress : V.Progress)
    (hsafe : V.alone.Safe client post program progress.2) :
    post (V.finish client choose program progress).1
      (V.finish client choose program progress).2.2 := by
  induction program generalizing progress with
  | ret value => exact hsafe
  | call op next ih =>
      obtain ⟨-, -, hnext⟩ := hsafe progress.2 rfl trivial (choose progress.1)
      exact ih _ (progress.1 + 1, _) hnext

/-- Alone, an operation is answered in the world as it stands. -/
theorem Discipline.alone_ask {V : Service S ι} {ε σ : Type} {op : S.Op}
    {post : Except ε (S.Answer op) → σ → V.World → Prop} {object : σ} {world : V.World} :
    V.alone.wp client (Routine.ask op) post object world ↔
      ∀ choice, post (.ok (V.serve client choice op world).1) object
        (V.serve client choice op world).2 := by
  rw [Discipline.wp_ask]
  constructor
  · intro hask choice
    exact (hask world rfl trivial choice).2.2
  · rintro hask current rfl - choice
    exact ⟨trivial, trivial, hask choice⟩

/-- What a program does alone in a view of a service it also does in a pool of
that service, as its last program, where nobody else is advanced. -/
theorem Pool.exists_run_finish {V W : Service S ι} (view : V.World → W.World)
    (hview : ∀ client choice op world, ∃ event picked,
      W.serve client choice op (view world) =
        ((V.serve client picked op (V.outside event world)).1,
          view (V.serve client picked op (V.outside event world)).2))
    (program : ι → Prog S α) (choose : Nat → W.Choice) (threads : List (ι × Prog S α))
    (subject : ι) (body : Prog S α) (count : Nat) (world : V.World) :
    let ended := W.finish ⟨subject, threads.length⟩ choose body (count, view world)
    ∃ moves final, view final = ended.2.2 ∧
      Pool.run program moves ⟨world, threads ++ [(subject, body)]⟩ =
        ⟨final, threads ++ [(subject, .ret ended.1)]⟩ := by
  induction body generalizing count world with
  | ret value => exact ⟨[], world, rfl, rfl⟩
  | call op next ih =>
      obtain ⟨event, picked, hserve⟩ :=
        hview ⟨subject, threads.length⟩ (choose count) op world
      simp only [Service.finish, hserve]
      obtain ⟨moves, final, hfinal, hrun⟩ := ih
        (V.serve ⟨subject, threads.length⟩ picked op (V.outside event world)).1 (count + 1)
        (V.serve ⟨subject, threads.length⟩ picked op (V.outside event world)).2
      refine ⟨.outside event :: .advance threads.length picked :: moves, final, hfinal, ?_⟩
      rw [← hrun]
      simp [Pool.step]

end Interaction

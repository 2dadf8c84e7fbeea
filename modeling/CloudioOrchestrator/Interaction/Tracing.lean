import CloudioOrchestrator.Interaction.Discipline

/-! # Traces of programs

The open service answers every operation with anything at all and remembers
the exchanges. What a program does there it does under every service, so that a
specification proved over traces once serves in every discipline.
-/

namespace Interaction

variable {S T : Signature} {ι α : Type}

/-- An operation and what it was answered. -/
structure Exchange (S : Signature) where
  op : S.Op
  answer : S.Answer op

/-- The exchanges of a program so far, newest first. -/
abbrev Trace (S : Signature) := List (Exchange S)

abbrev openService (S : Signature) (ι : Type) : Service S ι where
  World := Trace S
  Choice := (op : S.Op) → S.Answer op
  Outside := Empty
  serve _ choice op trace := (choice op, ⟨op, choice op⟩ :: trace)
  outside event := nomatch event

/-- Every operation of the trace was allowed by what came before it. -/
def Lawful (allowed : Trace S → S.Op → Prop) : Trace S → Prop
  | [] => True
  | exchange :: earlier => allowed earlier exchange.op ∧ Lawful allowed earlier

/-- Perform only what is allowed, with nobody else about. -/
def tracing (ι : Type) (allowed : Trace S → S.Op → Prop) : Discipline (openService S ι) where
  inv := Lawful allowed
  rely _ := Eq
  guar _ _ _ := True
  refl _ _ := rfl
  trans := Eq.trans

section Tracing

variable {allowed : Trace S → S.Op → Prop} {client : Client ι} {post : α → Trace S → Prop}

theorem safe_tracing_call {op : S.Op} {next : S.Answer op → Prog S α} {trace : Trace S}
    (hop : Lawful allowed trace → allowed trace op)
    (hnext : ∀ answer, Lawful allowed trace →
      (tracing ι allowed).Safe client post (next answer) (⟨op, answer⟩ :: trace)) :
    (tracing ι allowed).Safe client post (.call op next) trace := by
  rintro current rfl hlawful choice
  exact ⟨⟨hop hlawful, hlawful⟩, trivial, hnext _ hlawful⟩

variable [∀ op, Nonempty (S.Answer op)]

/-- Any single answer can be chosen. -/
theorem exists_choice (op : S.Op) (answer : S.Answer op) :
    ∃ choice : (op : S.Op) → S.Answer op, choice op = answer := by
  classical
  exact ⟨Function.update (fun op => Classical.arbitrary _) op answer,
    Function.update_self op answer _⟩

/-- A program that is safe on traces is safe under any discipline in which what
it is allowed to do keeps a relation between its trace and the world. -/
theorem Discipline.Safe.transfer {V : Service S ι} {D : Discipline V}
    {related : Trace S → V.World → Prop}
    (hserve : ∀ trace op world current choice, related trace world → allowed trace op →
      D.rely client world current → D.inv current →
      D.inv (V.serve client choice op current).2 ∧
      D.guar client current (V.serve client choice op current).2 ∧
      related (⟨op, (V.serve client choice op current).1⟩ :: trace)
        (V.serve client choice op current).2)
    {program : Prog S α} {trace : Trace S} {world : V.World}
    (hsafe : (tracing ι allowed).Safe client post program trace)
    (hlawful : Lawful allowed trace) (hrelated : related trace world) :
    D.Safe client (fun value final => ∃ whole, related whole final ∧ post value whole)
      program world := by
  induction program generalizing trace world with
  | ret value => exact ⟨trace, hrelated, hsafe⟩
  | call op next ih =>
      intro current hrely hinv choice
      obtain ⟨picked, hpicked⟩ := exists_choice op (V.serve client choice op current).1
      obtain ⟨hallowed, -, hnext⟩ := hsafe trace rfl hlawful picked
      obtain ⟨hkept, hguar, hrelated'⟩ :=
        hserve trace op world current choice hrelated hallowed.1 hrely hinv
      refine ⟨hkept, hguar, ?_⟩
      change (tracing ι allowed).Safe client post (next (picked op)) (⟨op, picked op⟩ :: trace)
        at hnext
      rw [hpicked] at hnext
      exact ih _ hnext ⟨hallowed.1, hlawful⟩ hrelated'

end Tracing

section Relabel

/-- The part of a service that a smaller signature reaches. -/
def Service.through (V : Service T ι) (rename : S.Op → T.Op)
    (back : ∀ op, T.Answer (rename op) → S.Answer op) : Service S ι where
  World := V.World
  Choice := V.Choice
  Outside := V.Outside
  serve client choice op world :=
    (back op (V.serve client choice (rename op) world).1,
      (V.serve client choice (rename op) world).2)
  outside := V.outside

def Discipline.through {V : Service T ι} (D : Discipline V) (rename : S.Op → T.Op)
    (back : ∀ op, T.Answer (rename op) → S.Answer op) : Discipline (V.through rename back) where
  inv := D.inv
  rely := D.rely
  guar := D.guar
  refl := D.refl
  trans := D.trans

theorem Discipline.safe_relabel {V : Service T ι} {D : Discipline V} {client : Client ι}
    {rename : S.Op → T.Op} {back : ∀ op, T.Answer (rename op) → S.Answer op}
    {post : α → V.World → Prop} (program : Prog S α) (world : V.World) :
    D.Safe client post (program.relabel rename back) world ↔
      (D.through rename back).Safe client post program world := by
  induction program generalizing world with
  | ret value => rfl
  | call op next ih =>
      simp only [Prog.relabel, Discipline.Safe, ih]
      rfl

end Relabel

end Interaction

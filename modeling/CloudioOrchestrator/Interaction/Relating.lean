import CloudioOrchestrator.Interaction.Program

/-! # Two programs side by side

A pairing says which operations two programs may perform side by side, and
which answers they are then given, in terms of what they have in common so far.
Paired programs go on like that until both return.
-/

namespace Interaction

variable {S T : Signature} {κ ε σ τ α β γ δ : Type}

structure Pairing (S : Signature) (κ : Type) where
  fits : κ → S.Op → S.Op → Prop
  answers : (op other : S.Op) → S.Answer op → S.Answer other → Prop
  /-- What is in common once the first program's operation is answered. -/
  after : κ → (op : S.Op) → S.Answer op → κ

/-- The programs perform fitting operations as long as they are given answers
that belong together, and what they return is as said. -/
def Prog.Paired (P : Pairing S κ) (post : κ → α → β → Prop) :
    Prog S α → Prog S β → κ → Prop
  | .ret value, .ret other, common => post common value other
  | .call op next, .call other rest, common => P.fits common op other ∧
      ∀ answer reply, P.answers op other answer reply →
        (next answer).Paired P post (rest reply) (P.after common op answer)
  | .ret _, .call .., _ => False
  | .call .., .ret _, _ => False

variable {P : Pairing S κ} {common : κ}

namespace Prog.Paired

variable {post : κ → α → β → Prop} {program : Prog S α} {twin : Prog S β}

theorem mono {wider : κ → α → β → Prop} (hpaired : program.Paired P post twin common)
    (hwider : ∀ common value other, post common value other → wider common value other) :
    program.Paired P wider twin common := by
  induction program generalizing twin common with
  | ret value =>
      cases twin with
      | ret other => exact hwider common value other hpaired
      | call other rest => exact hpaired
  | call op next ih =>
      cases twin with
      | ret other => exact hpaired
      | call other rest =>
          refine ⟨hpaired.1, ?_⟩
          intro answer reply hanswers
          exact ih answer (hpaired.2 answer reply hanswers)

theorem bind {post : κ → γ → δ → Prop} {next : α → Prog S γ} {rest : β → Prog S δ}
    (hpaired : program.Paired P (fun common value other =>
      (next value).Paired P post (rest other) common) twin common) :
    (program.bind next).Paired P post (twin.bind rest) common := by
  induction program generalizing twin common with
  | ret value =>
      cases twin with
      | ret other => exact hpaired
      | call other rest => exact hpaired.elim
  | call op next ih =>
      cases twin with
      | ret other => exact hpaired.elim
      | call other rest =>
          refine ⟨hpaired.1, ?_⟩
          intro answer reply hanswers
          exact ih answer (hpaired.2 answer reply hanswers)

/-- Programs that are paired within a smaller signature are so where they are
run inside a larger one. -/
theorem relabel {Q : Pairing T κ} {rename : S.Op → T.Op}
    {back : ∀ op, T.Answer (rename op) → S.Answer op}
    (hfits : ∀ {common op other}, P.fits common op other →
      Q.fits common (rename op) (rename other))
    (hanswers : ∀ {common op other answer reply}, P.fits common op other →
      Q.answers (rename op) (rename other) answer reply →
      P.answers op other (back op answer) (back other reply))
    (hafter : ∀ common op answer, Q.after common (rename op) answer =
      P.after common op (back op answer))
    (hpaired : program.Paired P post twin common) :
    (program.relabel rename back).Paired Q post (twin.relabel rename back) common := by
  induction program generalizing twin common with
  | ret value =>
      cases twin with
      | ret other => exact hpaired
      | call other rest => exact hpaired.elim
  | call op next ih =>
      cases twin with
      | ret other => exact hpaired.elim
      | call other rest =>
          refine ⟨hfits hpaired.1, ?_⟩
          intro answer reply hreply
          rw [hafter]
          exact ih _ (hpaired.2 _ _ (hanswers hpaired.1 hreply))

end Prog.Paired

namespace Routine

/-- Two routines side by side, each on its own object. -/
def Both (P : Pairing S κ) (body : Routine S ε σ α) (twin : Routine S ε τ β)
    (post : κ → Except ε α → Except ε β → σ → τ → Prop) (object : σ) (other : τ) (common : κ) :
    Prop :=
  (body object).Paired P (fun common ended reply => post common ended.1 reply.1 ended.2 reply.2)
    (twin other) common

namespace Both

variable {body : Routine S ε σ α} {twin : Routine S ε τ β} {object : σ} {other : τ}
  {post : κ → Except ε α → Except ε β → σ → τ → Prop}

theorem mono {wider : κ → Except ε α → Except ε β → σ → τ → Prop}
    (hboth : Both P body twin post object other common)
    (hwider : ∀ common ended reply object other, post common ended reply object other →
      wider common ended reply object other) :
    Both P body twin wider object other common :=
  Prog.Paired.mono hboth fun _ _ _ => hwider _ _ _ _ _

theorem read {post : κ → Except ε σ → Except ε τ → σ → τ → Prop}
    (hpost : post common (.ok object) (.ok other) object other) :
    Both P Routine.read Routine.read post object other common :=
  hpost

theorem update {change : σ → σ} {twin : τ → τ}
    {post : κ → Except ε Unit → Except ε Unit → σ → τ → Prop}
    (hpost : post common (.ok ()) (.ok ()) (change object) (twin other)) :
    Both P (Routine.update change) (Routine.update twin) post object other common :=
  hpost

theorem ask {op twin : S.Op}
    {post : κ → Except ε (S.Answer op) → Except ε (S.Answer twin) → σ → τ → Prop}
    (hfits : P.fits common op twin)
    (hpost : ∀ answer reply, P.answers op twin answer reply →
      post (P.after common op answer) (.ok answer) (.ok reply) object other) :
    Both P (Routine.ask op) (Routine.ask twin) post object other common :=
  ⟨hfits, hpost⟩

theorem ofExcept {outcome : Except ε α} {reply : Except ε β}
    (hpost : post common outcome reply object other) :
    Both P (Routine.ofExcept outcome) (Routine.ofExcept reply) post object other common := by
  cases outcome with
  | ok value =>
      cases reply with
      | ok reply => exact hpost
      | error problem => exact hpost
  | error error =>
      cases reply with
      | ok reply => exact hpost
      | error problem => exact hpost

theorem bind {next : α → Routine S ε σ γ} {rest : β → Routine S ε τ δ}
    {post : κ → Except ε γ → Except ε δ → σ → τ → Prop}
    (hboth : Both P body twin (fun common ended reply object other => match ended, reply with
      | .ok value, .ok reply => Both P (next value) (rest reply) post object other common
      | .error error, .error problem => post common (.error error) (.error problem) object other
      | _, _ => False) object other common) :
    Both P (body >>= next) (twin >>= rest) post object other common := by
  change ((body object).bind _).Paired P _ ((twin other).bind _) common
  apply Prog.Paired.bind
  apply Prog.Paired.mono hboth
  rintro common ⟨ended, object⟩ ⟨reply, other⟩ hpost
  cases ended with
  | ok value =>
      cases reply with
      | ok reply => exact hpost
      | error problem => exact hpost.elim
  | error error =>
      cases reply with
      | ok reply => exact hpost.elim
      | error problem => exact hpost

theorem attempt {post : κ → Except ε (Except ε α) → Except ε (Except ε β) → σ → τ → Prop}
    (hboth : Both P body twin (fun common ended reply => post common (.ok ended) (.ok reply))
      object other common) :
    Both P (Routine.attempt body) (Routine.attempt twin) post object other common := by
  change ((body object).bind _).Paired P _ ((twin other).bind _) common
  exact Prog.Paired.bind hboth

end Both

/-! ## Routines that keep a relation -/

/-- Two outcomes of one kind, whose values are related. -/
inductive Alike (related : α → β → Prop) : Except ε α → Except ε β → Prop
  | ok {value other} (hrelated : related value other) : Alike related (.ok value) (.ok other)
  | error (error) : Alike related (.error error) (.error error)

theorem Alike.of_eq (outcome : Except ε α) : Alike (ε := ε) Eq outcome outcome := by
  cases outcome with
  | ok value => exact .ok rfl
  | error error => exact .error error

/-- The routines keep a relation between their objects and end alike. -/
def Matched (P : Pairing S κ) (same : κ → σ → τ → Prop) (related : α → β → Prop)
    (body : Routine S ε σ α) (twin : Routine S ε τ β) : Prop :=
  ∀ common object other, same common object other →
    Both P body twin (fun after ended reply object other => after = common ∧
      same common object other ∧ Alike related ended reply) object other common

namespace Matched

variable {same : κ → σ → τ → Prop} {related : α → β → Prop} {relates : γ → δ → Prop}
  {body : Routine S ε σ α} {twin : Routine S ε τ β}

theorem pure {value : α} {other : β} (hrelated : related value other) :
    Matched (ε := ε) P same related (Pure.pure value) (Pure.pure other) :=
  fun _ _ _ hsame => ⟨rfl, hsame, .ok hrelated⟩

theorem raise (error : ε) :
    Matched P same related (Routine.raise error) (Routine.raise error) :=
  fun _ _ _ hsame => ⟨rfl, hsame, .error error⟩

theorem ofExcept {outcome : Except ε α} {reply : Except ε β}
    (halike : Alike related outcome reply) :
    Matched P same related (Routine.ofExcept outcome) (Routine.ofExcept reply) :=
  fun _ _ _ hsame => .ofExcept ⟨rfl, hsame, halike⟩

theorem read {related : σ → τ → Prop} (hrelated : ∀ {common object other},
    same common object other → related object other) :
    Matched (ε := ε) P same related Routine.read Routine.read :=
  fun _ _ _ hsame => ⟨rfl, hsame, .ok (hrelated hsame)⟩

theorem update {change : σ → σ} {twin : τ → τ} (hchange : ∀ {common object other},
    same common object other → same common (change object) (twin other)) :
    Matched (ε := ε) P same Eq (Routine.update change) (Routine.update twin) :=
  fun _ _ _ hsame => ⟨rfl, hchange hsame, .ok rfl⟩

theorem bind {next : α → Routine S ε σ γ} {rest : β → Routine S ε τ δ}
    (hfirst : Matched P same related body twin)
    (hnext : ∀ {value other}, related value other →
      Matched P same relates (next value) (rest other)) :
    Matched P same relates (body >>= next) (twin >>= rest) := by
  intro common object other hsame
  apply Both.bind
  apply Both.mono (hfirst common object other hsame)
  rintro after ended reply object other ⟨rfl, hsame, halike⟩
  cases halike with
  | ok hrelated => exact hnext hrelated _ _ _ hsame
  | error error => exact ⟨rfl, hsame, .error error⟩

theorem raise_bind (error : ε) {next : α → Routine S ε σ γ} {rest : β → Routine S ε τ δ} :
    Matched P same relates (Routine.raise error >>= next) (Routine.raise error >>= rest) :=
  fun _ _ _ hsame => ⟨rfl, hsame, .error error⟩

/-- What follows routines that keep a relation may rely on it. -/
theorem bind_both {next : α → Routine S ε σ γ} {rest : β → Routine S ε τ δ}
    {post : κ → Except ε γ → Except ε δ → σ → τ → Prop} {object : σ} {other : τ}
    (hfirst : Matched P same related body twin) (hsame : same common object other)
    (hnext : ∀ value reply object other, related value reply → same common object other →
      Both P (next value) (rest reply) post object other common)
    (herror : ∀ error object other, same common object other →
      post common (.error error) (.error error) object other) :
    Both P (body >>= next) (twin >>= rest) post object other common := by
  apply Both.bind
  apply Both.mono (hfirst common object other hsame)
  rintro after ended reply object other ⟨rfl, hsame, halike⟩
  cases halike with
  | ok hrelated => exact hnext _ _ _ _ hrelated hsame
  | error error => exact herror error _ _ hsame

theorem attempt (hbody : Matched P same related body twin) :
    Matched P same (Alike related) (Routine.attempt body) (Routine.attempt twin) := by
  intro common object other hsame
  apply Both.attempt
  apply Both.mono (hbody common object other hsame)
  rintro after ended reply object other ⟨rfl, hsame, halike⟩
  exact ⟨rfl, hsame, .ok halike⟩

end Matched

end Routine

end Interaction

import CloudioOrchestrator.Interaction.Program

/-! # Rely and guarantee for interacting programs

A service answers operations and changes a shared world while doing so; the
answer may depend on a choice nobody controls. A discipline says what holds of
the world between operations, what a client relies on while others act, and
what it guarantees of its own operations. A program is safe when each of its
operations meets the discipline, from any world others may have left.
-/

namespace Interaction

/-- A party running a program: what the program is about, and which one of the
parties about it this is. -/
structure Client (ι : Type) where
  subject : ι
  serial : Nat
deriving DecidableEq

structure Service (S : Signature) (ι : Type) where
  World : Type
  /-- What the environment decides while one operation is served. -/
  Choice : Type
  /-- What may happen to the world with no program asking for it. -/
  Outside : Type
  serve : Client ι → Choice → (op : S.Op) → World → S.Answer op × World
  outside : Outside → World → World

structure Discipline {S : Signature} {ι : Type} (V : Service S ι) where
  inv : V.World → Prop
  rely : Client ι → V.World → V.World → Prop
  guar : Client ι → V.World → V.World → Prop
  refl : ∀ client world, rely client world world
  trans : ∀ {client first second third},
    rely client first second → rely client second third → rely client first third

variable {S : Signature} {ι α β ε σ : Type} {V : Service S ι}

namespace Discipline

/-- Every operation of the program keeps the invariant and the guarantee, and
the program returns only in worlds that meet `post`. -/
def Safe (D : Discipline V) (client : Client ι) (post : α → V.World → Prop) :
    Prog S α → V.World → Prop
  | .ret value, world => post value world
  | .call op next, world => ∀ current, D.rely client world current → D.inv current →
      ∀ choice,
        D.inv (V.serve client choice op current).2 ∧
        D.guar client current (V.serve client choice op current).2 ∧
        D.Safe client post (next (V.serve client choice op current).1)
          (V.serve client choice op current).2

variable {D : Discipline V} {client : Client ι}

@[simp] theorem safe_ret {post : α → V.World → Prop} {value : α} {world : V.World} :
    D.Safe client post (.ret value) world ↔ post value world := Iff.rfl

theorem safe_bind {post : β → V.World → Prop} (program : Prog S α) (next : α → Prog S β)
    (world : V.World) :
    D.Safe client post (program.bind next) world ↔
      D.Safe client (fun value => D.Safe client post (next value)) program world := by
  induction program generalizing world with
  | ret value => rfl
  | call op rest ih => simp only [Prog.call_bind, Safe, ih]

theorem Safe.mono {post wider : α → V.World → Prop} {program : Prog S α} {world : V.World}
    (hsafe : D.Safe client post program world)
    (hwider : ∀ value final, post value final → wider value final) :
    D.Safe client wider program world := by
  induction program generalizing world with
  | ret value => exact hwider value world hsafe
  | call op next ih =>
      intro current hrely hinv choice
      obtain ⟨hkept, hguar, hnext⟩ := hsafe current hrely hinv choice
      exact ⟨hkept, hguar, ih _ hnext⟩

/-- Any program at all is safe where every operation keeps the discipline. -/
theorem Safe.of_serves {P : V.World → Prop} (program : Prog S α) {world : V.World}
    (hstable : ∀ {world current}, P world → D.rely client world current → D.inv current →
      P current)
    (hserves : ∀ op current choice, D.inv current → P current →
      D.inv (V.serve client choice op current).2 ∧
      D.guar client current (V.serve client choice op current).2 ∧
      P (V.serve client choice op current).2)
    (hworld : P world) : D.Safe client (fun _ final => P final) program world := by
  induction program generalizing world with
  | ret value => exact hworld
  | call op next ih =>
      intro current hrely hinv choice
      obtain ⟨hkept, hguar, hholds⟩ := hserves op current choice hinv
        (hstable hworld hrely hinv)
      exact ⟨hkept, hguar, ih _ hholds⟩

/-- Safety of a pending operation survives whatever others may do meanwhile. -/
theorem Safe.stable {post : α → V.World → Prop} {op : S.Op} {next : S.Answer op → Prog S α}
    {world later : V.World} (hsafe : D.Safe client post (.call op next) world)
    (hrely : D.rely client world later) :
    D.Safe client post (.call op next) later :=
  fun current hcurrent => hsafe current (D.trans hrely hcurrent)

/-- Weakest precondition of a routine: the postcondition sees how it ended, the
object it left and the world. -/
def wp (D : Discipline V) (client : Client ι) (body : Routine S ε σ α)
    (post : Except ε α → σ → V.World → Prop) (object : σ) (world : V.World) : Prop :=
  D.Safe client (fun ended => post ended.1 ended.2) (body object) world

section Rules

variable {post : Except ε β → σ → V.World → Prop} {object : σ} {world : V.World}

@[simp] theorem wp_pure {value : β} :
    D.wp client (pure value : Routine S ε σ β) post object world ↔
      post (.ok value) object world := Iff.rfl

@[simp] theorem wp_raise {error : ε} :
    D.wp client (Routine.raise error) post object world ↔ post (.error error) object world :=
  Iff.rfl

@[simp] theorem wp_read {post : Except ε σ → σ → V.World → Prop} :
    D.wp client (Routine.read : Routine S ε σ σ) post object world ↔
      post (.ok object) object world := Iff.rfl

@[simp] theorem wp_update {post : Except ε Unit → σ → V.World → Prop} {change : σ → σ} :
    D.wp client (Routine.update change) post object world ↔
      post (.ok ()) (change object) world := Iff.rfl

@[simp] theorem wp_bind {first : Routine S ε σ α} {next : α → Routine S ε σ β} :
    D.wp client (first >>= next) post object world ↔
      D.wp client first (fun ended object world => match ended with
        | .ok value => D.wp client (next value) post object world
        | .error error => post (.error error) object world) object world := by
  change D.Safe client _ ((first object).bind _) world ↔ _
  rw [safe_bind]
  constructor <;> intro hsafe <;> refine hsafe.mono ?_ <;>
    rintro ⟨_ | _, _⟩ _ hnext <;> exact hnext

@[simp] theorem wp_attempt {body : Routine S ε σ α}
    {post : Except ε (Except ε α) → σ → V.World → Prop} :
    D.wp client (Routine.attempt body) post object world ↔
      D.wp client body (fun ended => post (.ok ended)) object world := by
  change D.Safe client _ ((body object).bind _) world ↔ _
  rw [safe_bind]
  rfl

@[simp] theorem wp_ofExcept {outcome : Except ε β} :
    D.wp client (Routine.ofExcept outcome) post object world ↔ post outcome object world := by
  cases outcome <;> rfl

/-- A routine that ends without performing anything. -/
theorem wp_of_ret {body : Routine S ε σ β} {ended : Except ε β} {final : σ}
    (hbody : body object = .ret (ended, final)) :
    D.wp client body post object world ↔ post ended final world := by
  change D.Safe client _ (body object) world ↔ _
  rw [hbody, safe_ret]

theorem wp_ask {op : S.Op} {post : Except ε (S.Answer op) → σ → V.World → Prop} :
    D.wp client (Routine.ask op) post object world ↔
      ∀ current, D.rely client world current → D.inv current → ∀ choice,
        D.inv (V.serve client choice op current).2 ∧
        D.guar client current (V.serve client choice op current).2 ∧
        post (.ok (V.serve client choice op current).1) object
          (V.serve client choice op current).2 := Iff.rfl

theorem wp_mono {body : Routine S ε σ β} {wider : Except ε β → σ → V.World → Prop}
    (hbody : D.wp client body post object world)
    (hwider : ∀ ended object world, post ended object world → wider ended object world) :
    D.wp client body wider object world :=
  Safe.mono hbody fun ended world => hwider ended.1 ended.2 world

end Rules

end Discipline

end Interaction

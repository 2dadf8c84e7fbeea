import CloudioOrchestrator.Interaction.Program

/-! # Programs that end with an answer

Some answers to some operations are the end of a program: once it has received
one, it performs no further operation, and returns what it should.
-/

namespace Interaction

variable {S T : Signature} {α β ε σ : Type}

/-- Certain answers end the program, with a value that is as it should be. -/
def Prog.Concludes (last : (op : S.Op) → S.Answer op → Prop) (done : α → Prop) : Prog S α → Prop
  | .ret _ => True
  | .call op next => ∀ answer, (next answer).Concludes last done ∧
      (last op answer → ∃ value, next answer = .ret value ∧ done value)

variable {last : (op : S.Op) → S.Answer op → Prop}

namespace Prog.Concludes

theorem mono {done wider : α → Prop} {program : Prog S α}
    (hprogram : program.Concludes last done) (hwider : ∀ value, done value → wider value) :
    program.Concludes last wider := by
  induction program with
  | ret value => trivial
  | call op next ih =>
      intro answer
      obtain ⟨hnext, hlast⟩ := hprogram answer
      refine ⟨ih answer hnext, fun hanswer => ?_⟩
      obtain ⟨value, hvalue, hdone⟩ := hlast hanswer
      exact ⟨value, hvalue, hwider value hdone⟩

/-- What follows a program that has ended performs nothing either. -/
theorem bind {done : α → Prop} {later : β → Prop} {program : Prog S α} {next : α → Prog S β}
    (hprogram : program.Concludes last done) (hnext : ∀ value, (next value).Concludes last later)
    (hdone : ∀ value, done value → ∃ result, next value = .ret result ∧ later result) :
    (program.bind next).Concludes last later := by
  induction program with
  | ret value => exact hnext value
  | call op rest ih =>
      intro answer
      obtain ⟨hrest, hlast⟩ := hprogram answer
      refine ⟨ih answer hrest, fun hanswer => ?_⟩
      obtain ⟨value, hvalue, hended⟩ := hlast hanswer
      simp only [hvalue]
      exact hdone value hended

/-- A program whose operations, renamed, have no such answers. -/
theorem relabel {T : Signature} {last : (op : T.Op) → T.Answer op → Prop} {done : α → Prop}
    {rename : S.Op → T.Op} {back : ∀ op, T.Answer (rename op) → S.Answer op}
    (hlast : ∀ op answer, ¬ last (rename op) answer) (program : Prog S α) :
    (program.relabel rename back).Concludes last done := by
  induction program with
  | ret value => trivial
  | call op next ih => exact fun answer => ⟨ih _, fun hanswer => absurd hanswer (hlast op answer)⟩

end Prog.Concludes

namespace Routine

/-- The same of a computation, whatever object it is run on. -/
def Concludes (last : (op : S.Op) → S.Answer op → Prop) (done : Except ε α → Prop)
    (body : Routine S ε σ α) : Prop :=
  ∀ object, (body object).Concludes last fun value => done value.1

/-- No operation of the computation is answered so. -/
abbrev Unending (last : (op : S.Op) → S.Answer op → Prop) (body : Routine S ε σ α) : Prop :=
  body.Concludes last fun _ => False

variable {done : Except ε α → Prop} {later : Except ε β → Prop}

theorem Concludes.pure (value : α) : (pure value : Routine S ε σ α).Concludes last done :=
  fun _ => trivial

theorem Concludes.raise (error : ε) : (raise error : Routine S ε σ α).Concludes last done :=
  fun _ => trivial

theorem Concludes.read {done : Except ε σ → Prop} : (read : Routine S ε σ σ).Concludes last done :=
  fun _ => trivial

theorem Concludes.update {done : Except ε Unit → Prop} (change : σ → σ) :
    (update change : Routine S ε σ Unit).Concludes last done :=
  fun _ => trivial

theorem Concludes.ofExcept (outcome : Except ε α) :
    (ofExcept outcome : Routine S ε σ α).Concludes last done := by
  cases outcome with
  | ok value => exact .pure value
  | error error => exact .raise error

theorem Concludes.ask {op : S.Op} {done : Except ε (S.Answer op) → Prop}
    (hdone : ∀ answer, last op answer → done (.ok answer)) :
    (ask op : Routine S ε σ (S.Answer op)).Concludes last done :=
  fun _ answer => ⟨trivial, fun hanswer => ⟨_, rfl, hdone answer hanswer⟩⟩

/-- What follows a computation that has ended must return at once. -/
theorem Concludes.bind {first : Routine S ε σ α} {next : α → Routine S ε σ β}
    (hfirst : first.Concludes last done) (hnext : ∀ value, (next value).Concludes last later)
    (hvalue : ∀ value, done (.ok value) → ∀ object : σ, ∃ result,
      next value object = .ret result ∧ later result.1)
    (herror : ∀ error, done (.error error) → later (.error error)) :
    (first >>= next).Concludes last later := by
  intro object
  apply Prog.Concludes.bind (hfirst object)
  · rintro ⟨value | error, object⟩
    · trivial
    · exact hnext _ object
  · rintro ⟨error | value, object⟩ hended
    · exact ⟨_, rfl, herror error hended⟩
    · exact hvalue value hended object

/-- What a computation that does not end so is followed by. -/
theorem Unending.bind {first : Routine S ε σ α} {next : α → Routine S ε σ β}
    (hfirst : first.Unending last) (hnext : ∀ value, (next value).Concludes last later) :
    (first >>= next).Concludes last later :=
  Concludes.bind hfirst hnext (fun _ hfalse => hfalse.elim) fun _ hfalse => hfalse.elim

theorem Concludes.attempt {body : Routine S ε σ α} (hbody : body.Concludes last done) :
    (attempt body).Concludes last fun ended => ∃ outcome, ended = .ok outcome ∧ done outcome := by
  intro object
  apply Prog.Concludes.bind (hbody object)
  · intro value
    trivial
  · intro value hended
    exact ⟨_, rfl, value.1, rfl, hended⟩

theorem Unending.attempt {body : Routine S ε σ α} (hbody : body.Unending last) :
    (attempt body : Routine S ε σ (Except ε α)).Unending last := by
  intro object
  apply (Concludes.attempt hbody object).mono
  rintro _ ⟨_, -, hfalse⟩
  exact hfalse

end Routine

end Interaction

import CloudioOrchestrator.Interaction.Tracing

/-! # Playing a program against an environment

An environment answers each operation as it likes, from what was exchanged
before. A program that keeps to a part of its signature sees no more of an
environment than what it answers there: two environments that agree on the part
lead it the same way.
-/

namespace Interaction

variable {S : Signature} {α β ε σ : Type}

/-- What answers the operations of a program, given the exchanges so far. -/
abbrev Environment (S : Signature) :=
  Trace S → (op : S.Op) → S.Answer op

/-- What a program returns, and all that was exchanged by then. -/
def Prog.play (environment : Environment S) : Prog S α → Trace S → α × Trace S
  | .ret value, trace => (value, trace)
  | .call op next, trace =>
      (next (environment trace op)).play environment (⟨op, environment trace op⟩ :: trace)

/-- The program performs only operations of a part of its signature. -/
def Prog.Confined (part : S.Op → Bool) : Prog S α → Prop
  | .ret _ => True
  | .call op next => part op = true ∧ ∀ answer, (next answer).Confined part

/-- The exchanges of a part of the signature. -/
def view (part : S.Op → Bool) (trace : Trace S) : Trace S :=
  trace.filter fun exchange => part exchange.op

theorem view_cons_of_pos {part : S.Op → Bool} {exchange : Exchange S} {trace : Trace S}
    (hpart : part exchange.op = true) :
    view part (exchange :: trace) = exchange :: view part trace :=
  List.filter_cons_of_pos hpart

theorem view_cons_of_neg {part : S.Op → Bool} {exchange : Exchange S} {trace : Trace S}
    (hpart : part exchange.op = false) : view part (exchange :: trace) = view part trace :=
  List.filter_cons_of_neg (Bool.eq_false_iff.mp hpart)

/-- The environments answer the part alike, from what they see of the part. -/
def AgreeOn (part : S.Op → Bool) (first second : Environment S) : Prop :=
  ∀ earlier earlier' op, part op = true → view part earlier = view part earlier' →
    first earlier op = second earlier' op

section Programs

variable {environment first second : Environment S} {part : S.Op → Bool}

theorem play_bind (program : Prog S α) (next : α → Prog S β) (trace : Trace S) :
    (program.bind next).play environment trace =
      (next (program.play environment trace).1).play environment
        (program.play environment trace).2 := by
  induction program generalizing trace with
  | ret value => rfl
  | call op rest ih => exact ih _ _

theorem confined_bind {program : Prog S α} {next : α → Prog S β}
    (hprogram : program.Confined part) (hnext : ∀ value, (next value).Confined part) :
    (program.bind next).Confined part := by
  induction program with
  | ret value => exact hnext value
  | call op rest ih =>
      refine ⟨hprogram.1, ?_⟩
      intro answer
      exact ih answer (hprogram.2 answer)

/-- A program that keeps to a part leaves what was exchanged outside of it. -/
theorem view_play_of_confined (environment : Environment S) (other : S.Op → Bool)
    {program : Prog S α} (hprogram : program.Confined part)
    (hother : ∀ op, part op = true → other op = false)
    (trace : Trace S) : view other (program.play environment trace).2 = view other trace := by
  induction program generalizing trace with
  | ret value => rfl
  | call op next ih =>
      rw [Prog.play, ih _ (hprogram.2 _)]
      simp [view, hother op hprogram.1]

/-- Environments that agree on the part lead the program to the same end, by the same exchanges. -/
theorem play_eq_of_agreeOn {program : Prog S α} (hprogram : program.Confined part)
    (hagree : AgreeOn part first second) (trace other : Trace S)
    (hview : view part trace = view part other) :
    (program.play first trace).1 = (program.play second other).1 ∧
      view part (program.play first trace).2 = view part (program.play second other).2 := by
  induction program generalizing trace other with
  | ret value => exact ⟨rfl, hview⟩
  | call op next ih =>
      have hanswer := hagree trace other op hprogram.1 hview
      rw [Prog.play, Prog.play, hanswer]
      apply ih _ (hprogram.2 _)
      simp [view, hprogram.1] at hview ⊢
      exact hview

end Programs

namespace Routine

/-- The routine keeps to the part, on whatever object it is run. -/
def Confined (part : S.Op → Bool) (body : Routine S ε σ α) : Prop :=
  ∀ object, (body object).Confined part

variable {part : S.Op → Bool} {environment : Environment S} {object : σ} {trace : Trace S}

theorem confined_pure (value : α) : (pure value : Routine S ε σ α).Confined part :=
  fun _ => trivial

theorem confined_raise (error : ε) : (raise error : Routine S ε σ α).Confined part :=
  fun _ => trivial

theorem confined_read : (read : Routine S ε σ σ).Confined part :=
  fun _ => trivial

theorem confined_update (change : σ → σ) : (update change : Routine S ε σ Unit).Confined part :=
  fun _ => trivial

theorem confined_ofExcept (outcome : Except ε α) :
    (ofExcept outcome : Routine S ε σ α).Confined part := by
  cases outcome with
  | ok value => exact confined_pure value
  | error error => exact confined_raise error

theorem confined_ask {op : S.Op} (hop : part op = true) :
    (ask op : Routine S ε σ (S.Answer op)).Confined part :=
  fun _ => ⟨hop, fun _ => trivial⟩

theorem Confined.bind {first : Routine S ε σ α} {next : α → Routine S ε σ β}
    (hfirst : first.Confined part) (hnext : ∀ value, (next value).Confined part) :
    (first >>= next).Confined part := by
  intro object
  apply confined_bind (hfirst object)
  rintro ⟨outcome, object⟩
  cases outcome with
  | ok value => exact hnext value object
  | error error => trivial

theorem Confined.attempt {body : Routine S ε σ α} (hbody : body.Confined part) :
    (attempt body).Confined part := by
  intro object
  apply confined_bind (hbody object)
  intro ended
  trivial

@[simp] theorem play_pure (value : α) :
    ((pure value : Routine S ε σ α) object).play environment trace = ((.ok value, object), trace) :=
  rfl

@[simp] theorem play_raise (error : ε) :
    ((raise error : Routine S ε σ α) object).play environment trace =
      ((.error error, object), trace) := rfl

@[simp] theorem play_read :
    ((read : Routine S ε σ σ) object).play environment trace = ((.ok object, object), trace) := rfl

@[simp] theorem play_update (change : σ → σ) :
    ((update change : Routine S ε σ Unit) object).play environment trace =
      ((.ok (), change object), trace) := rfl

@[simp] theorem play_ofExcept (outcome : Except ε α) :
    ((ofExcept outcome : Routine S ε σ α) object).play environment trace =
      ((outcome, object), trace) := by
  cases outcome <;> rfl

@[simp] theorem play_ask (op : S.Op) :
    ((ask op : Routine S ε σ (S.Answer op)) object).play environment trace =
      ((.ok (environment trace op), object), ⟨op, environment trace op⟩ :: trace) := rfl

theorem play_bind_ok {first : Routine S ε σ α} {next : α → Routine S ε σ β} {value : α}
    {changed : σ} {later : Trace S}
    (hfirst : (first object).play environment trace = ((.ok value, changed), later)) :
    ((first >>= next) object).play environment trace =
      (next value changed).play environment later := by
  change ((first object).bind _).play environment trace = _
  rw [play_bind, hfirst]

theorem play_bind_error {first : Routine S ε σ α} {next : α → Routine S ε σ β} {error : ε}
    {changed : σ} {later : Trace S}
    (hfirst : (first object).play environment trace = ((.error error, changed), later)) :
    ((first >>= next) object).play environment trace = ((.error error, changed), later) := by
  change ((first object).bind _).play environment trace = _
  rw [play_bind, hfirst]
  rfl

@[simp] theorem play_attempt (body : Routine S ε σ α) :
    ((attempt body) object).play environment trace =
      let played := (body object).play environment trace
      ((.ok played.1.1, played.1.2), played.2) := by
  change ((body object).bind _).play environment trace = _
  rw [play_bind]
  rfl

/-- The routine leaves a feature of its object as it was, however it is answered. -/
def Preserves {τ : Type} (feature : σ → τ) (body : Routine S ε σ α) : Prop :=
  ∀ environment object trace,
    feature ((body object).play environment trace).1.2 = feature object

section Preserves

variable {τ : Type} {feature : σ → τ}

theorem preserves_pure (value : α) : (pure value : Routine S ε σ α).Preserves feature :=
  fun _ _ _ => rfl

theorem preserves_read : (read : Routine S ε σ σ).Preserves feature :=
  fun _ _ _ => rfl

theorem preserves_update {change : σ → σ}
    (hchange : ∀ object, feature (change object) = feature object) :
    (update change : Routine S ε σ Unit).Preserves feature :=
  fun _ object _ => hchange object

theorem preserves_ofExcept (outcome : Except ε α) :
    (ofExcept outcome : Routine S ε σ α).Preserves feature := by
  intro environment object trace
  rw [play_ofExcept]

theorem preserves_ask (op : S.Op) : (ask op : Routine S ε σ (S.Answer op)).Preserves feature :=
  fun _ _ _ => rfl

theorem Preserves.bind {first : Routine S ε σ α} {next : α → Routine S ε σ β}
    (hfirst : first.Preserves feature) (hnext : ∀ value, (next value).Preserves feature) :
    (first >>= next).Preserves feature := by
  intro environment object trace
  have hkept := hfirst environment object trace
  cases hplayed : (first object).play environment trace with
  | mk ended later =>
      obtain ⟨outcome, changed⟩ := ended
      rw [hplayed] at hkept
      cases outcome with
      | ok value =>
          rw [play_bind_ok hplayed]
          exact (hnext value environment changed later).trans hkept
      | error error =>
          rw [play_bind_error hplayed]
          exact hkept

end Preserves

end Routine

end Interaction

import Mathlib.Logic.Function.Basic

/-! # Programs that interact with a service

A program is a finite tree: it returns, or performs one operation and continues
with whatever answer comes back. What an operation does, and who else acts
between two operations, is not part of the program; a service says so.
-/

namespace Interaction

/-- The operations a program may perform, and the answers each can receive. -/
structure Signature where
  Op : Type
  Answer : Op → Type

inductive Prog (S : Signature) (α : Type) : Type
  | ret (value : α)
  | call (op : S.Op) (next : S.Answer op → Prog S α)

variable {S T : Signature} {α β γ : Type}

namespace Prog

def bind : Prog S α → (α → Prog S β) → Prog S β
  | .ret value, next => next value
  | .call op rest, next => .call op fun answer => (rest answer).bind next

instance : Monad (Prog S) where
  pure := .ret
  bind := .bind

/-- Run a program of one signature inside another: each operation is renamed,
and the answer to the renamed operation is read back as an answer to the original. -/
def relabel (rename : S.Op → T.Op) (back : ∀ op, T.Answer (rename op) → S.Answer op) :
    Prog S α → Prog T α
  | .ret value => .ret value
  | .call op next => .call (rename op) fun answer => (next (back op answer)).relabel rename back

@[simp] theorem pure_eq (value : α) : (pure value : Prog S α) = .ret value := rfl

@[simp] theorem bind_eq (program : Prog S α) (next : α → Prog S β) :
    (program >>= next) = program.bind next := rfl

@[simp] theorem ret_bind (value : α) (next : α → Prog S β) :
    (Prog.ret value).bind next = next value := rfl

@[simp] theorem call_bind (op : S.Op) (rest : S.Answer op → Prog S α) (next : α → Prog S β) :
    (Prog.call op rest).bind next = .call op fun answer => (rest answer).bind next := rfl

theorem bind_assoc (program : Prog S α) (first : α → Prog S β) (second : β → Prog S γ) :
    (program.bind first).bind second = program.bind fun value => (first value).bind second := by
  induction program with
  | ret value => rfl
  | call op next ih =>
      simp only [call_bind]
      congr 1
      funext answer
      exact ih answer

end Prog

/-- A computation on a mutable object that may raise. An exception leaves the
object as it was mutated so far, as an object shared by reference does. -/
def Routine (S : Signature) (ε σ α : Type) : Type :=
  σ → Prog S (Except ε α × σ)

namespace Routine

variable {ε σ : Type}

protected def pure (value : α) : Routine S ε σ α :=
  fun object => .ret (.ok value, object)

def raise (error : ε) : Routine S ε σ α :=
  fun object => .ret (.error error, object)

protected def bind (first : Routine S ε σ α) (next : α → Routine S ε σ β) : Routine S ε σ β :=
  fun object => (first object).bind fun
    | (.ok value, object) => next value object
    | (.error error, object) => .ret (.error error, object)

instance : Monad (Routine S ε σ) where
  pure := Routine.pure
  bind := Routine.bind

/-- The object as it stands. -/
def read : Routine S ε σ σ :=
  fun object => .ret (.ok object, object)

def update (change : σ → σ) : Routine S ε σ Unit :=
  fun object => .ret (.ok (), change object)

/-- Perform one operation; its answer never raises by itself. -/
def ask (op : S.Op) : Routine S ε σ (S.Answer op) :=
  fun object => .call op fun answer => .ret (.ok answer, object)

/-- Run a computation and hand its outcome over as a value. -/
def attempt (body : Routine S ε σ α) : Routine S ε σ (Except ε α) :=
  fun object => (body object).bind fun (outcome, object) => .ret (.ok outcome, object)

/-- The value of an outcome, raising if it is an error. -/
def ofExcept : Except ε α → Routine S ε σ α
  | .ok value => pure value
  | .error error => raise error

theorem read_bind (next : σ → Routine S ε σ α) (object : σ) :
    (read >>= next) object = next object object := rfl

theorem ofExcept_error_bind (error : ε) (next : α → Routine S ε σ β) (object : σ) :
    (ofExcept (.error error) >>= next) object = .ret (.error error, object) := rfl

end Routine

end Interaction

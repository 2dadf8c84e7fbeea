import CloudioOrchestrator.Interaction.Playing

/-! # Programs over a handler

A handler performs the operations of one signature by requests of another, and
keeps a memory from one operation to the next. To the program it is one more
environment: what the operations so far did to its memory and its requests is
found by performing them again.
-/

namespace Interaction

variable {S T : Signature} {α μ : Type}

/-- How each operation is performed, given the memory and leaving the next. -/
abbrev Handler (S T : Signature) (μ : Type) :=
  (op : S.Op) → μ → Prog T (S.Answer op × μ)

/-- The program with each of its operations performed by the handler. -/
def Prog.handled (handler : Handler S T μ) : Prog S α → μ → Prog T (α × μ)
  | .ret value, memory => .ret (value, memory)
  | .call op next, memory =>
      (handler op memory).bind fun (answer, later) => (next answer).handled handler later

/-- The memory and the requests that the handler comes to over some exchanges. -/
def replay (handler : Handler S T μ) (environment : Environment T) (memory : μ) :
    Trace S → μ × Trace T
  | [] => (memory, [])
  | exchange :: earlier =>
      let before := replay handler environment memory earlier
      let played := (handler exchange.op before.1).play environment before.2
      (played.1.2, played.2)

/-- The environment that the handler is to the program above it. -/
def induced (handler : Handler S T μ) (environment : Environment T) (memory : μ) :
    Environment S := fun earlier op =>
  let before := replay handler environment memory earlier
  ((handler op before.1).play environment before.2).1.1

section Handled

/-- A handled program is the program played against its handler. -/
theorem play_handled (handler : Handler S T μ) (environment : Environment T) (memory : μ)
    (program : Prog S α) (earlier : Trace S) :
    (program.handled handler (replay handler environment memory earlier).1).play environment
        (replay handler environment memory earlier).2 =
      let played := program.play (induced handler environment memory) earlier
      ((played.1, (replay handler environment memory played.2).1),
        (replay handler environment memory played.2).2) := by
  induction program generalizing earlier with
  | ret value => rfl
  | call op next ih =>
      rw [Prog.handled, play_bind]
      exact ih _ (⟨op, induced handler environment memory earlier op⟩ :: earlier)

/-- What each operation keeps, of the memory and the requests beside the exchanges, holds of all
of them. -/
theorem replay_induction (handler : Handler S T μ) (environment : Environment T) (memory : μ)
    (related : Trace S → μ → Trace T → Prop) (hstart : related [] memory [])
    (hstep : ∀ exchange earlier memory trace, related earlier memory trace →
      related (exchange :: earlier) ((handler exchange.op memory).play environment trace).1.2
        ((handler exchange.op memory).play environment trace).2)
    (trace : Trace S) :
    related trace (replay handler environment memory trace).1
      (replay handler environment memory trace).2 := by
  induction trace with
  | nil => exact hstart
  | cons exchange earlier ih => exact hstep exchange earlier _ _ ih

end Handled

end Interaction

import CloudioOrchestrator.Interaction.Program
import Mathlib.Order.WellFounded

/-! # Progress under fair schedules

A rank that stays as it is but where some move lowers it, made again and again, runs
out. A program is itself such a rank: each answer leaves it less to do.
-/

namespace Interaction

/-- Again and again. -/
def Infinitely (happens : Nat → Prop) : Prop :=
  ∀ since, ∃ time, since ≤ time ∧ happens time

/-- What stays until a helpful move is made is there when one is made. -/
theorem meets_helpful {holds helpful : Nat → Prop} (hfair : Infinitely helpful)
    (hstays : ∀ time, holds time → ¬ helpful time → holds (time + 1)) {since : Nat}
    (hholds : holds since) : ∃ time, since ≤ time ∧ helpful time ∧ holds time := by
  obtain ⟨next, hnext, hhelpful⟩ := hfair since
  obtain ⟨distance, rfl⟩ := Nat.exists_eq_add_of_le hnext
  clear hnext
  induction distance generalizing since with
  | zero => exact ⟨since, Nat.le_refl _, hhelpful, hholds⟩
  | succ distance ih =>
      by_cases hnow : helpful since
      · exact ⟨since, Nat.le_refl _, hnow, hholds⟩
      · have hlater : helpful (since + 1 + distance) := by
          rw [Nat.add_assoc, Nat.add_comm 1]
          exact hhelpful
        obtain ⟨time, hle, hrest⟩ := ih (hstays since hholds hnow) hlater
        exact ⟨time, by omega, hrest⟩

theorem eventually_of_rank {Rank : Type} {lower : Rank → Rank → Prop}
    (hwell : WellFounded lower) {holds : Nat → Rank → Prop} {goal helpful : Nat → Prop}
    (hfair : Infinitely helpful)
    (hstays : ∀ time rank, holds time rank → ¬ helpful time → holds (time + 1) rank)
    (hfalls : ∀ time rank, holds time rank → helpful time →
      goal (time + 1) ∨ ∃ less, lower less rank ∧ holds (time + 1) less)
    {since : Nat} {rank : Rank} (hholds : holds since rank) :
    ∃ time, since < time ∧ goal time := by
  induction rank using hwell.induction generalizing since with
  | _ rank ih =>
      obtain ⟨time, hle, hhelpful, hthere⟩ :=
        meets_helpful hfair (fun time => hstays time rank) hholds
      cases hfalls time rank hthere hhelpful with
      | inl hgoal => exact ⟨time + 1, by omega, hgoal⟩
      | inr hless =>
          obtain ⟨less, hlower, hless⟩ := hless
          obtain ⟨later, hlater, hgoal⟩ := ih less hlower hless
          exact ⟨later, by omega, hgoal⟩

/-- What a program goes on with, after one answer. -/
inductive Prog.After {S : Signature} {α : Type} : Prog S α → Prog S α → Prop
  | answered {op : S.Op} (next : S.Answer op → Prog S α) (answer : S.Answer op) :
      After (next answer) (.call op next)

theorem Prog.after_wellFounded {S : Signature} {α : Type} :
    WellFounded (Prog.After : Prog S α → Prog S α → Prop) := by
  constructor
  intro body
  induction body with
  | ret value =>
      constructor
      intro later hlater
      cases hlater
  | call op next ih =>
      constructor
      intro later hlater
      cases hlater with
      | answered _ answer => exact ih answer

end Interaction

import Mathlib.Data.List.Nodup
import Mathlib.Order.Basic

/-! # Chronicles

When each stage of a plan was begun, noted once as the plan is worked through
in order, by a clock that never goes back.
-/

namespace Chronicle

variable {Key Time : Type} [Preorder Time]
variable {plan begun : List Key} {log : Key → Option Time} {now later : Time}

/-- Just the stages begun are noted; they are the plan up to some position, and
each was begun no earlier than the one before it, and by now. -/
structure Fills (plan begun : List Key) (log : Key → Option Time) (now : Time) : Prop where
  starts : begun <+: plan
  keys : ∀ key, (log key).isSome ↔ key ∈ begun
  ordered : begun.Pairwise fun first second =>
    ∀ time other, log first = some time → log second = some other → time ≤ other
  past : ∀ key time, log key = some time → time ≤ now

/-- Nothing is begun. -/
theorem Fills.blank (plan : List Key) (now : Time) : Fills plan [] (fun _ => none) now where
  starts := List.nil_prefix
  keys key := by simp
  ordered := .nil
  past key time htime := by cases htime

/-- As time goes by. -/
theorem Fills.mono (hlog : Fills plan begun log now) (hlater : now ≤ later) :
    Fills plan begun log later :=
  ⟨hlog.starts, hlog.keys, hlog.ordered, fun key time htime =>
    le_trans (hlog.past key time htime) hlater⟩

/-- The next stage of the plan is begun now. -/
theorem Fills.note (hlog : Fills plan begun log now) (hplan : plan.Nodup) {next : Key}
    (hnext : begun ++ [next] <+: plan) {noted : Key → Option Time}
    (hnoted : noted next = some now) (hothers : ∀ key, key ≠ next → noted key = log key) :
    Fills plan (begun ++ [next]) noted now := by
  have hfresh : next ∉ begun := by
    have hnodup : (begun ++ [next]).Nodup := hplan.sublist hnext.sublist
    intro hbegun
    exact (List.nodup_append.mp hnodup).2.2 next hbegun next (by simp) rfl
  have hold : ∀ key ∈ begun, noted key = log key := by
    intro key hkey
    apply hothers
    rintro rfl
    exact hfresh hkey
  refine ⟨hnext, fun key => ?_, ?_, fun key time htime => ?_⟩
  · by_cases hkey : key = next
    · simp [hkey, hnoted]
    · rw [hothers key hkey, hlog.keys key]
      simp [hkey]
  · rw [List.pairwise_append]
    refine ⟨hlog.ordered.imp_of_mem ?_, List.pairwise_singleton _ _, ?_⟩
    · intro first second hfirst hsecond horder
      rw [hold first hfirst, hold second hsecond]
      exact horder
    · intro first hfirst second hsecond time other htime hother
      obtain rfl := List.mem_singleton.mp hsecond
      rw [hold first hfirst] at htime
      obtain rfl := Option.some.inj (hnoted.symm.trans hother)
      exact hlog.past first time htime
  · by_cases hkey : key = next
    · subst hkey
      exact le_of_eq (Option.some.inj (htime.symm.trans hnoted))
    · rw [hothers key hkey] at htime
      exact hlog.past key time htime

/-- Whatever the first log notes, the second notes as well. -/
def Keeps (first second : Key → Option Time) : Prop :=
  ∀ key time, first key = some time → second key = some time

omit [Preorder Time] in
theorem Keeps.refl (log : Key → Option Time) : Keeps log log :=
  fun _ _ htime => htime

omit [Preorder Time] in
theorem Keeps.trans {first second third : Key → Option Time} (hfirst : Keeps first second)
    (hsecond : Keeps second third) : Keeps first third :=
  fun key time htime => hsecond key time (hfirst key time htime)

end Chronicle

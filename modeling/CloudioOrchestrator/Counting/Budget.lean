import Mathlib.Data.List.Nodup

/-! # A retry budget for each stage

A plan is worked through stage by stage. A stage may be tried any number of
times: it completes, is not done yet, or fails, and each stage has a budget of
failures of its own after which it fails for good.
-/

namespace Budget

variable {Stage Reason : Type}

/-- How trying a stage went. -/
inductive Outcome (Stage Reason : Type)
  | completed (stage : Stage)
  | notDone
  | failed (stage : Stage) (reason : Reason)
  /-- The work is turned down as a whole. -/
  | denied
  /-- Trying the stage again could not be arranged. -/
  | crashed (reason : Reason)
deriving DecidableEq

/-- How the work stands. -/
inductive Stand (Stage : Type)
  | at (stage : Stage) (rest : List Stage) (failures : Nat)
  | failed (stage : Stage) (failures : Nat)
  | denied (stage : Stage)
  | completed
  /-- Something was reported of a stage other than the one at hand. -/
  | astray
deriving DecidableEq

/-- Which failures are worth another try, and how many tries after the first a
stage is given. -/
structure Terms (Reason : Type) where
  retryable : Reason → Bool
  retries : Int

variable [DecidableEq Stage]

/-- A failure, once it was counted. -/
def Stand.afterFailure (terms : Terms Reason) (stage : Stage) (rest : List Stage)
    (failures : Nat) (reason : Reason) : Stand Stage :=
  if terms.retryable reason ∧ ((failures + 1 : Nat) : Int) ≤ terms.retries then
    .at stage rest (failures + 1)
  else .failed stage (failures + 1)

def Stand.afterCompletion : List Stage → Stand Stage
  | [] => .completed
  | next :: rest => .at next rest 0

def Stand.after (terms : Terms Reason) : Stand Stage → Outcome Stage Reason → Stand Stage
  | .at stage rest failures, .failed which reason =>
      if which = stage then afterFailure terms stage rest failures reason else .astray
  | .at stage rest failures, .notDone => .at stage rest failures
  | .at stage rest _, .completed which =>
      if which = stage then afterCompletion rest else .astray
  | .at stage _ _, .denied => .denied stage
  | .at stage _ failures, .crashed _ => .failed stage failures
  | _, _ => .astray

def Stand.run (terms : Terms Reason) (stand : Stand Stage)
    (outcomes : List (Outcome Stage Reason)) : Stand Stage :=
  outcomes.foldl (after terms) stand

variable {terms : Terms Reason} {stand : Stand Stage} {outcomes : List (Outcome Stage Reason)}

@[simp] theorem Stand.run_nil : stand.run terms [] = stand := rfl

@[simp] theorem Stand.run_append (later : List (Outcome Stage Reason)) :
    stand.run terms (outcomes ++ later) = (stand.run terms outcomes).run terms later :=
  List.foldl_append

@[simp] theorem Stand.run_singleton (outcome : Outcome Stage Reason) :
    stand.run terms [outcome] = stand.after terms outcome := rfl

def Outcome.isFailureOf (stage : Stage) : Outcome Stage Reason → Bool
  | .failed which _ => which = stage
  | _ => false

/-- How often a stage failed. -/
def failuresOf (stage : Stage) (outcomes : List (Outcome Stage Reason)) : Nat :=
  outcomes.countP (Outcome.isFailureOf stage)

/-- The failures counted are those of the stage at hand, and the stages to come
have none. -/
def Stand.Counts (outcomes : List (Outcome Stage Reason)) : Stand Stage → Prop
  | .at stage rest failures =>
      (stage :: rest).Nodup ∧ failures = failuresOf stage outcomes ∧
        ∀ other ∈ rest, failuresOf other outcomes = 0
  | .failed stage failures => failures = failuresOf stage outcomes
  | _ => True

theorem failuresOf_append (stage : Stage) (later : List (Outcome Stage Reason)) :
    failuresOf stage (outcomes ++ later) = failuresOf stage outcomes + failuresOf stage later :=
  List.countP_append

theorem Stand.Counts.after (hstand : stand.Counts outcomes) (outcome : Outcome Stage Reason) :
    (stand.after terms outcome).Counts (outcomes ++ [outcome]) := by
  cases stand with
  | «at» stage rest failures =>
      obtain ⟨hnodup, hfailures, hrest⟩ := hstand
      cases outcome with
      | completed which =>
          have hkept : ∀ other, failuresOf other (outcomes ++ [.completed which]) =
              failuresOf other outcomes := by
            intro other
            rw [failuresOf_append]
            rfl
          simp only [Stand.after]
          split
          · cases rest with
            | nil => trivial
            | cons next rest =>
                refine ⟨(List.nodup_cons.mp hnodup).2, ?_, fun other hother => ?_⟩
                · rw [hkept, hrest next List.mem_cons_self]
                · rw [hkept, hrest other (List.mem_cons_of_mem _ hother)]
          · trivial
      | notDone =>
          refine ⟨hnodup, ?_, fun other hother => ?_⟩
          · rw [failuresOf_append, hfailures]
            rfl
          · rw [failuresOf_append, hrest other hother]
            rfl
      | failed which reason =>
          simp only [Stand.after]
          split
          next heq =>
            subst heq
            have hcounted : failures + 1 =
                failuresOf which (outcomes ++ [.failed which reason]) := by
              rw [failuresOf_append, hfailures]
              simp [failuresOf, Outcome.isFailureOf]
            unfold afterFailure
            split
            · refine ⟨hnodup, hcounted, fun other hother => ?_⟩
              have hne : which ≠ other := by
                intro heq
                exact (List.nodup_cons.mp hnodup).1 (heq ▸ hother)
              rw [failuresOf_append, hrest other hother]
              simp [failuresOf, Outcome.isFailureOf, hne]
            · exact hcounted
          next => trivial
      | denied => trivial
      | crashed reason =>
          change failures = _
          rw [failuresOf_append, hfailures]
          rfl
  | _ => trivial

/-- In a plan without repetitions, no failure of one stage counts against another. -/
theorem Stand.Counts.run (hstand : stand.Counts outcomes)
    (later : List (Outcome Stage Reason)) : (stand.run terms later).Counts (outcomes ++ later) := by
  induction later generalizing stand outcomes with
  | nil => simpa using hstand
  | cons outcome later ih =>
      have hafter : (stand.after terms outcome).Counts (outcomes ++ [outcome]) :=
        hstand.after outcome
      have hnext := ih hafter
      rwa [List.append_assoc] at hnext

theorem counts_start {stage : Stage} {rest : List Stage} (hplan : (stage :: rest).Nodup) :
    (Stand.at stage rest 0).Counts ([] : List (Outcome Stage Reason)) :=
  ⟨hplan, rfl, fun _ _ => rfl⟩

end Budget

import CloudioOrchestrator.Steps

/-! # Run plans

The step order of each run type as data, and the handler of each step.
-/

namespace CloudioOrchestrator

def runPlans : RunType → List StepName
  | .automation => [.runEngine, .closeTicket]
  | .resource =>
      [.createTicket, .configureResource, .awaitApproval, .validateResource, .runEngine,
        .finalizeResource, .closeTicket]
  | .legacy => [.submitLegacy]

/-- The wiring of the composition root: every step has a handler. -/
def buildHandlers (engines : List WorkflowEngineType) : StepName → Option StepHandler
  | .createTicket => some createTicketStep
  | .configureResource => some configureResourceStep
  | .awaitApproval => some awaitApprovalStep
  | .validateResource => some validateResourceStep
  | .runEngine => some (runEngineStep engines)
  | .finalizeResource => some finalizeResourceStep
  | .closeTicket => some closeTicketStep
  | .submitLegacy => some submitLegacyStep

theorem runPlans_nodup (runType : RunType) : (runPlans runType).Nodup := by
  cases runType <;> decide

theorem runPlans_ne_nil (runType : RunType) : runPlans runType ≠ [] := by
  cases runType <;> decide

/-- The first step of a plan. -/
def firstStep (runType : RunType) : StepName :=
  (runPlans runType).head (runPlans_ne_nil runType)

/-- What a plan has after a step. -/
def following (plan : List StepName) (step : StepName) : List StepName :=
  (plan.dropWhile (· ≠ step)).tail

/-- What a plan has before a step. -/
def preceding (plan : List StepName) (step : StepName) : List StepName :=
  plan.takeWhile (· ≠ step)

theorem preceding_append_following {plan : List StepName} {step : StepName} (hstep : step ∈ plan) :
    preceding plan step ++ step :: following plan step = plan := by
  induction plan with
  | nil => simp at hstep
  | cons head rest ih =>
      by_cases heq : head = step
      · subst heq
        simp [preceding, following]
      · have hrest : step ∈ rest := by simpa [Ne.symm heq] using hstep
        simpa [preceding, following, heq] using ih hrest

/-- Moving one step on in a plan without repetitions. -/
theorem following_eq_cons {plan : List StepName} {step next : StepName} {rest : List StepName}
    (hnodup : plan.Nodup) (hstep : step ∈ plan) (hnext : following plan step = next :: rest) :
    next ∈ plan ∧ following plan next = rest ∧
      preceding plan next = preceding plan step ++ [step] := by
  have hsplit := preceding_append_following hstep
  rw [hnext] at hsplit
  have hplan : plan = (preceding plan step ++ [step]) ++ next :: rest := by simp [hsplit]
  have hfresh : ∀ other ∈ preceding plan step ++ [step], other ≠ next := by
    intro other hother heq
    rw [hplan, List.nodup_append] at hnodup
    exact hnodup.2.2 other hother next (by simp) heq
  have hdrop : plan.dropWhile (· ≠ next) = next :: rest := by
    rw [hplan, List.dropWhile_append_of_pos (by simpa using hfresh)]
    simp
  have htake : plan.takeWhile (· ≠ next) = preceding plan step ++ [step] := by
    rw [hplan, List.takeWhile_append_of_pos (by simpa using hfresh)]
    simp [← hplan]
  refine ⟨?_, ?_, ?_⟩
  · rw [hplan]
    simp
  · rw [following, hdrop, List.tail_cons]
  · rw [preceding, htake]

theorem preceding_firstStep (runType : RunType) :
    preceding (runPlans runType) (firstStep runType) = [] := by
  cases runType <;> decide

theorem firstStep_mem (runType : RunType) : firstStep runType ∈ runPlans runType :=
  List.head_mem _

end CloudioOrchestrator

import CloudioOrchestrator.Executor
import CloudioOrchestrator.Interaction.Concluding

/-! # A drive ends with its save

A save that is accepted is the last thing a drive does: whatever saves returns
at once, and what it returns to does too.
-/

namespace CloudioOrchestrator

open Interaction Drive Routine

/-- A save was accepted. -/
def SaveAccepted : (op : Op) → op.Answer → Prop
  | .runsSave _, .ok _ => True
  | _, _ => False

/-- A part of a drive that has no save accepted. -/
abbrev Savefree {α : Type} (body : Drive α) : Prop :=
  Routine.Unending (S := Operations) SaveAccepted body

/-- A part of a drive that ends with an accepted save, and then so. -/
abbrev EndsSaved {α : Type} (value : α) (body : Drive α) : Prop :=
  Routine.Concludes (S := Operations) SaveAccepted (fun ended => ended = .ok value) body

section Escalation

theorem perform_savefree {op : Op} (hop : ∀ run, op ≠ .runsSave run) : Savefree (perform op) := by
  apply Concludes.ask
  intro answer haccepted
  cases op with
  | runsSave run => exact hop run rfl
  | _ => exact haccepted

theorem issue_savefree (issuer : Issuer) (call : Call) : Savefree (issue issuer call) :=
  Unending.bind (perform_savefree (by simp)) fun _ => .ofExcept _

theorem log_savefree (record : LogRecord) : Savefree (log record) :=
  perform_savefree (by simp)

theorem logDocumentationIncident_savefree (defaultTeam group detail : String) :
    Savefree (Escalator.logDocumentationIncident defaultTeam group detail) := by
  unfold Escalator.logDocumentationIncident
  split
  · exact .pure _
  · apply Unending.bind .read
    intro run
    apply Unending.bind _ fun _ => .pure _
    apply Unending.attempt
    apply Unending.bind (.ofExcept _)
    intro incident
    apply Unending.bind (issue_savefree _ _)
    intro doc
    exact issue_savefree _ _

theorem openByPolicy_savefree (defaultTeam message : String) :
    Savefree (Escalator.openByPolicy defaultTeam message) := by
  apply Unending.bind .read
  intro run
  apply Unending.bind (.ofExcept _)
  intro incident
  apply Unending.bind (issue_savefree _ _)
  intro opened
  apply Unending.bind (.update _)
  intro _
  exact logDocumentationIncident_savefree _ _ _

theorem closeByPolicy_savefree (kind : FailureKind) : Savefree (Escalator.closeByPolicy kind) := by
  apply Unending.bind .read
  intro run
  split
  · exact .pure _
  · exact Unending.bind (issue_savefree _ _) fun _ => .update _

theorem escalateByPolicy_savefree (defaultTeam message : String) (kind : FailureKind) :
    Savefree (Escalator.escalateByPolicy defaultTeam message kind) := by
  apply Unending.bind (log_savefree _)
  intro _
  split
  · apply Unending.bind (openByPolicy_savefree _ _)
    intro _
    exact closeByPolicy_savefree kind
  · exact closeByPolicy_savefree kind

theorem escalateUnclassified_savefree (defaultTeam : String) (error : PyException) :
    Savefree (Escalator.escalateUnclassified defaultTeam error) := by
  apply Unending.bind .read
  intro run
  apply Unending.bind (log_savefree _)
  intro _
  apply Unending.bind (.ofExcept _)
  intro incident
  apply Unending.bind (issue_savefree _ _)
  intro opened
  apply Unending.bind (.update _)
  intro _
  split
  · exact .pure _
  · exact issue_savefree _ _

theorem releaseResource_savefree : Savefree Escalator.releaseResource := by
  apply Unending.bind .read
  intro run
  split
  · exact .pure _
  · apply Unending.bind _ fun _ => .pure _
    apply Unending.attempt
    split
    · exact issue_savefree _ _
    · exact issue_savefree _ _

theorem escalate_savefree (defaultTeam : String) (error : PyException) :
    Savefree (Escalator.escalate defaultTeam error) := by
  apply Unending.bind _ fun _ => releaseResource_savefree
  apply Unending.attempt
  split
  · exact escalateByPolicy_savefree _ _ _
  · exact escalateUnclassified_savefree _ _

end Escalation

variable (executor : Executor)

/-- A save itself, as far as its answer goes. -/
theorem perform_runsSave (run : WorkflowRun) :
    Routine.Concludes (S := Operations) SaveAccepted
      (fun ended => ∃ version, ended = .ok (.ok version)) (perform (.runsSave run)) := by
  intro object answer
  refine ⟨trivial, fun haccepted => ⟨_, rfl, ?_⟩⟩
  cases answer with
  | ok version => exact ⟨version, rfl⟩
  | error error => exact haccepted.elim

theorem save_endsSaved : EndsSaved () Executor.save := by
  apply Unending.bind .read
  intro run
  apply Concludes.bind (perform_runsSave run)
  · intro answer
    split
    · exact .update _
    · exact .pure _
    · exact .raise _
  · rintro _ ⟨version, heq⟩ object
    obtain rfl := Except.ok.inj heq
    exact ⟨_, rfl, rfl⟩
  · rintro error ⟨version, heq⟩
    cases heq

theorem schedule_endsSaved (delay : Time) : EndsSaved () (Executor.schedule delay) := by
  apply Unending.bind (perform_savefree (by simp))
  intro now
  apply Unending.bind (.ofExcept _)
  intro due
  apply Unending.bind (.update _)
  intro _
  exact save_endsSaved

theorem rejectRun_endsSaved (step : StepName) (message : String) :
    EndsSaved () (Executor.rejectRun step message) := by
  apply Unending.bind (.update _)
  intro _
  apply Unending.bind (.update _)
  intro _
  apply Unending.bind releaseResource_savefree
  intro _
  exact save_endsSaved

theorem failStep_endsSaved (step : StepName) (error : PyException) :
    EndsSaved () (executor.failStep step error) := by
  apply Unending.bind (.update _)
  intro _
  apply Unending.bind (.update _)
  intro _
  apply Unending.bind (escalate_savefree _ _)
  intro _
  exact save_endsSaved

theorem onStepError_endsSaved (step : StepName) (handler : StepHandler) (error : PyException) :
    EndsSaved () (executor.onStepError step handler error) := by
  apply Unending.bind (.update _)
  intro _
  apply Unending.bind .read
  intro run
  simp only
  split
  · apply Unending.bind (.update _)
    intro _
    apply Unending.bind (perform_savefree (by simp))
    intro jitter
    exact schedule_endsSaved _
  · exact failStep_endsSaved executor step error

theorem stamp_savefree (step : StepName) : Savefree (Executor.stamp step) := by
  apply Unending.bind (perform_savefree (by simp))
  intro now
  apply Unending.bind (.update _)
  intro _
  apply Unending.bind .read
  intro run
  split
  · exact .pure _
  · apply Unending.bind (perform_savefree (by simp))
    intro now
    exact Unending.bind (.update _) fun _ => .pure _

/-- A handler only calls providers. -/
theorem providers_savefree {α : Type} (step : StepName) (body : Prog Providers α) :
    Prog.Concludes (S := Operations) SaveAccepted (fun _ => False)
      (body.relabel (T := Operations) (Op.provider (.step step)) fun _ answer => answer) :=
  Prog.Concludes.relabel (fun _ _ haccepted => haccepted) body

theorem onProviders_savefree {α : Type} (step : StepName) (body : Handling α) :
    Savefree (onProviders step body) := by
  intro run
  apply Prog.Concludes.bind (providers_savefree step (body run.runState))
  · intro value
    trivial
  · intro value hfalse
    exact hfalse.elim

theorem attemptStep_savefree (step : StepName) (handler : StepHandler) (started : Datetime) :
    Savefree (Executor.attemptStep step handler started) := by
  apply Unending.bind (perform_savefree (by simp))
  intro now
  apply Unending.bind (.ofExcept _)
  intro spent
  split
  · apply Unending.bind (.raise _)
    intro _
    exact Unending.bind .read fun run => onProviders_savefree step _
  · exact Unending.bind .read fun run => onProviders_savefree step _

/-- What is done when a turn does not go on ends it with the save. -/
theorem lastly_endsSaved {body : Drive Unit} (hbody : EndsSaved () body) :
    EndsSaved false (do body; return false) := by
  apply Concludes.bind hbody fun _ => .pure _
  · intro _ _ object
    exact ⟨_, rfl, rfl⟩
  · intro error heq
    cases heq

theorem turn_endsSaved (step : StepName) : EndsSaved false (executor.turn step) := by
  apply Unending.bind (.update _)
  intro _
  split
  · exact .raise _
  · apply Unending.bind (stamp_savefree step)
    intro started
    apply Unending.bind .read
    intro run
    apply Unending.bind (perform_savefree (by simp))
    intro now
    apply Unending.bind (.ofExcept _)
    intro _
    apply Unending.bind (attemptStep_savefree step _ started).attempt
    intro ended
    split
    · exact lastly_endsSaved (rejectRun_endsSaved step _)
    · apply Unending.bind (log_savefree _)
      intro _
      exact lastly_endsSaved (onStepError_endsSaved executor step _ _)
    · exact lastly_endsSaved (schedule_endsSaved _)
    · apply Unending.bind (log_savefree _)
      intro _
      exact Unending.bind (.update _) fun _ => .pure _

theorem proceed_endsSaved (plan : List StepName) (step : StepName) {andThen : Drive Unit}
    (hthen : EndsSaved () andThen) : EndsSaved () (executor.proceed plan step andThen) := by
  apply Concludes.bind (turn_endsSaved executor step)
  · intro passed
    split
    · split
      · exact Unending.bind (.raise _) fun _ => hthen
      · exact hthen
    · exact .pure _
  · intro passed heq object
    obtain rfl := Except.ok.inj heq
    exact ⟨_, rfl, rfl⟩
  · intro error heq
    cases heq

/-- The loop, by induction on what the plan still has. -/
theorem advance_endsSaved (plan rest : List StepName) (step : StepName) :
    EndsSaved () (executor.advance plan rest step) := by
  induction rest generalizing step with
  | nil =>
      apply proceed_endsSaved
      exact Unending.bind (.update _) fun _ => save_endsSaved
  | cons next rest ih =>
      apply proceed_endsSaved
      exact ih next

theorem drive_endsSaved : EndsSaved () executor.drive := by
  apply Unending.bind .read
  intro run
  apply Unending.bind (.ofExcept _)
  intro step
  apply Unending.bind (.update _)
  intro _
  exact advance_endsSaved executor _ _ step

theorem saveQuietly_endsSaved : EndsSaved () Executor.saveQuietly := by
  apply Concludes.bind save_endsSaved.attempt fun _ => .pure _
  · intro _ _ object
    exact ⟨_, rfl, rfl⟩
  · rintro error ⟨_, heq, -⟩
    cases heq

theorem crash_endsSaved (error : PyException) : EndsSaved () (executor.crash error) := by
  have hrest : EndsSaved () (do
      Routine.update fun run : WorkflowRun => { run with status := .failed, scheduledAt := none }
      log (.crashed error)
      Escalator.escalate executor.defaultTeam error
      Executor.saveQuietly) := by
    apply Unending.bind (.update _)
    intro _
    apply Unending.bind (log_savefree _)
    intro _
    exact Unending.bind (escalate_savefree _ _) fun _ => saveQuietly_endsSaved
  apply Unending.bind .read
  intro run
  split
  · exact Unending.bind (log_savefree _) fun _ => saveQuietly_endsSaved
  · split
    · exact hrest
    · apply Unending.bind (.ofExcept _)
      intro step
      exact Unending.bind (.update _) fun _ => hrest

theorem driveOrCrash_endsSaved : EndsSaved () executor.driveOrCrash := by
  apply Concludes.bind (drive_endsSaved executor).attempt
  · intro ended
    split
    · exact .pure _
    · exact crash_endsSaved executor _
  · rintro ended ⟨_, heq, rfl⟩ object
    obtain rfl := Except.ok.inj heq
    exact ⟨_, rfl, rfl⟩
  · rintro error ⟨_, heq, -⟩
    cases heq

/-- A delivery ends with a save of it that is accepted. -/
theorem handle_concludes (runId : UUID) :
    Prog.Concludes (S := Operations) SaveAccepted (fun _ => True) (executor.handle runId) := by
  intro answer
  refine ⟨?_, fun hfalse => hfalse.elim⟩
  simp only
  split
  · trivial
  · trivial
  · split
    · trivial
    · apply Prog.Concludes.bind (driveOrCrash_endsSaved executor _)
      · intro value
        trivial
      · intro value _
        exact ⟨_, rfl, trivial⟩

end CloudioOrchestrator

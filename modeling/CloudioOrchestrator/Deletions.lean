import CloudioOrchestrator.PlanOrder
import CloudioOrchestrator.Upkeep

/-! # Deletions

Which records a run deletes: the placeholder of its own create, when it is
released, or the record it was asked to delete, when it is finalized.
-/

namespace CloudioOrchestrator

open Interaction

/-- The resource manager answered the create of the run. -/
def CreateAnswered (runId : UUID) (history : History) : Prop :=
  ∃ projectId resourceType body key resourceId, Answered runId (.step .configureResource)
    (.createResource projectId resourceType body key) (.ok resourceId) history

/-- Until it is finalized, a create that is configured stands under the run id,
and any other run names the record it was triggered with. -/
def Placed (run : WorkflowRun) (history : History) : Prop :=
  run.runState.resourceFinalized = false →
    (run.runState.operation = .create → run.runState.resourceConfigured = true →
      CreateAnswered run.runId history ∧
        ∀ resource, run.runState.resource = some resource → resource.vendorId = run.runId.str) ∧
    (run.runState.operation ≠ .create → ∃ origin, .created origin ∈ history ∧
      origin.runId = run.runId ∧ origin.runState.operation = run.runState.operation ∧
      origin.runState.resource = run.runState.resource)

/-- What the run of a deletion has to have gone through. -/
def Deletable (drive : DriveId) (issuer : Issuer) (projectId resourceType vendorId : String)
    (older : History) : Prop :=
  ∃ origin resource, .created origin ∈ older ∧ origin.runId = drive.subject ∧
    origin.runState.resource = some resource ∧ projectId = resource.projectId ∧
    resourceType = resource.resourceType ∧
    (origin.runState.operation = .create ∧ issuer = .release ∧ vendorId = origin.runId.str ∧
        CreateAnswered drive.subject older ∨
      origin.runState.operation = .delete ∧ issuer = .step .finalizeResource ∧
        vendorId = resource.vendorId)

theorem CreateAnswered.grows {runId : UUID} {older : History} (event : Event)
    (hcreated : CreateAnswered runId older) : CreateAnswered runId (event :: older) := by
  obtain ⟨projectId, resourceType, body, key, resourceId, hanswered⟩ := hcreated
  exact ⟨projectId, resourceType, body, key, resourceId, hanswered.grows event⟩

namespace Placed

variable {run : WorkflowRun} {older : History}

theorem grows (event : Event) (hplaced : Placed run older) : Placed run (event :: older) := by
  intro hnew
  obtain ⟨hcreate, hexisting⟩ := hplaced hnew
  refine ⟨fun hoperation hconfigured => ?_, fun hoperation => ?_⟩
  · obtain ⟨hcreated, hvendor⟩ := hcreate hoperation hconfigured
    exact ⟨hcreated.grows event, hvendor⟩
  · obtain ⟨origin, hcreated, horigin⟩ := hexisting hoperation
    exact ⟨origin, List.mem_cons_of_mem _ hcreated, horigin⟩

theorem congr {changed : WorkflowRun} (hplaced : Placed run older) (hsame : run.SameOrigin changed)
    (hprogress : run.runState.SameProgress changed.runState) : Placed changed older := by
  obtain ⟨hid, -⟩ := hsame
  obtain ⟨-, -, -, hoperation, -, hresource, -, hconfigured, hfinalized⟩ := hprogress
  unfold Placed at *
  rw [← hid, ← hoperation, ← hresource, ← hconfigured, ← hfinalized]
  exact hplaced

theorem born (hrun : Newborn run) : Placed run (.created run :: older) := by
  intro _
  refine ⟨fun _ hconfigured => ?_, fun _ => ⟨run, List.mem_cons_self, rfl, rfl, rfl⟩⟩
  rw [hrun.markers.2.1] at hconfigured
  cases hconfigured

/-- Configuring a create puts it under the run id; finalizing ends what is said. -/
theorem ended {engines : List WorkflowEngineType} {drive : DriveId} {step : StepName}
    {trace : Trace Providers} {outcome : Except PyException Bool} {final : RunState}
    (hid : run.runId = drive.subject) (hplaced : Placed run older)
    (hrecorded : Recorded drive step trace older)
    (hend : HandlerEnd engines run run.runState step trace outcome final) :
    Placed { run with runState := final } older := by
  cases hend with
  | resourceCreated resourceId hnew hresource hcreate =>
      intro _
      refine ⟨fun _ _ => ⟨?_, ?_⟩, fun hexisting => absurd hcreate hexisting⟩
      · rw [show run.runId = drive.subject from hid]
        exact ⟨_, _, _, _, resourceId, hrecorded.answered List.mem_cons_self⟩
      · intro resource hassigned
        obtain rfl := Option.some.inj hassigned
        unfold assigned
        split
        · split <;> rfl
        · rfl
  | createRefused error hnew hresource hcreate =>
      intro _
      refine ⟨fun _ hconfigured => ?_, fun hexisting => absurd hcreate hexisting⟩
      exact absurd hconfigured (by simp [hnew])
  | resourceMarked hnew hresource hexisting =>
      intro hunfinalized
      exact ⟨fun hcreate => absurd hcreate hexisting, (hplaced hunfinalized).2⟩
  | succeededWith output hsome hresource =>
      unfold captured
      split <;> exact hplaced
  | engineFailed failure hsome => cases failure <;> exact hplaced
  | written hresource hnew hkept => exact fun hunfinalized => by cases hunfinalized
  | deleted => exact fun hunfinalized => by cases hunfinalized
  | _ => exact hplaced

end Placed

/-- The run's resource is the one it was created with, but for its identity. -/
theorem HasOrigin.resource {run : WorkflowRun} {resource : ResourceSpec} {history : History}
    (horigin : HasOrigin run history) (hresource : run.runState.resource = some resource) :
    ∃ origin wanted, .created origin ∈ history ∧ origin.runId = run.runId ∧
      origin.runState.operation = run.runState.operation ∧
      origin.runState.resource = some wanted ∧ wanted.anonymous = resource.anonymous := by
  obtain ⟨origin, hcreated, -, ⟨hid, -⟩, -, -, -, hoperation, -, hsame⟩ := horigin
  rw [hresource] at hsame
  obtain ⟨wanted, hwanted, hanonymous⟩ := Option.map_eq_some_iff.mp hsame
  exact ⟨origin, wanted, hcreated, hid, hoperation, hwanted, hanonymous⟩

theorem ResourceSpec.anonymous_eq {first second : ResourceSpec}
    (hsame : first.anonymous = second.anonymous) :
    first.projectId = second.projectId ∧ first.resourceType = second.resourceType := by
  have hproject := congrArg ResourceSpec.projectId hsame
  have htype := congrArg ResourceSpec.resourceType hsame
  exact ⟨hproject, htype⟩

section Deletable

variable {drive : DriveId} {run : WorkflowRun} {older : History}
  {projectId resourceType vendorId : String}

/-- A release deletes only the placeholder of a create. -/
theorem AsideCall.deletable {issuer : Issuer} (hid : run.runId = drive.subject)
    (horigin : HasOrigin run older) (hplaced : Placed run older)
    (hcall : AsideCall run.runState issuer (.deleteResource projectId resourceType vendorId)) :
    Deletable drive issuer projectId resourceType vendorId older := by
  cases hcall with
  | aftermath hcall =>
      cases hcall with
      | release hcall =>
          cases hcall with
          | delete hflight hcreate =>
              obtain ⟨hresource, hconfigured, hnew⟩ := resourceInFlight_eq_some hflight
              obtain ⟨hcreated, hvendor⟩ := (hplaced hnew).1 hcreate hconfigured
              obtain ⟨origin, wanted, horigin, horiginId, hoperation, hwanted, hsame⟩ :=
                horigin.resource hresource
              obtain ⟨hproject, htype⟩ := ResourceSpec.anonymous_eq hsame
              refine ⟨origin, wanted, horigin, horiginId.trans hid, hwanted, hproject.symm,
                htype.symm, .inl ⟨hoperation.trans hcreate, rfl, ?_, hid ▸ hcreated⟩⟩
              rw [hvendor _ hresource, horiginId]

/-- A step deletes only the record that its run was triggered to delete. -/
theorem HandlerCall.deletable {step : StepName} (hid : run.runId = drive.subject)
    (hplaced : Placed run older)
    (hcall : HandlerCall run run.runState step (.deleteResource projectId resourceType vendorId)) :
    Deletable drive (.step step) projectId resourceType vendorId older := by
  cases hcall with
  | delete hresource hnew hdelete =>
      obtain ⟨origin, hcreated, horiginId, hoperation, hsame⟩ :=
        (hplaced hnew).2 (by simp [hdelete])
      exact ⟨origin, _, hcreated, horiginId.trans hid, hsame.trans hresource, rfl, rfl,
        .inr ⟨hoperation.trans hdelete, rfl, rfl⟩⟩

end Deletable

/-- Deletions of a run name a record that is its own. -/
def placing (engines : List WorkflowEngineType) : Upkeep engines where
  fact := ⟨Placed, fun event hplaced => hplaced.grows event⟩
  event event older := ∀ drive issuer projectId resourceType vendorId answer applied,
    event = .called drive issuer (.deleteResource projectId resourceType vendorId) answer applied →
    Deletable drive issuer projectId resourceType vendorId older
  steady hplaced hsame hprogress := hplaced.congr hsame hprogress
  born hrun := .born hrun
  created _ _ := by simp
  loaded _ _ _ := by simp
  saved _ _ _ := by simp
  logged _ _ _ := by simp
  aside answer applied hid horigin hplaced hcall := by
    intro drive issuer projectId resourceType vendorId _ _ heq
    cases heq
    exact hcall.deletable hid horigin hplaced
  called answer applied hid _ hplaced hcall := by
    intro drive issuer projectId resourceType vendorId _ _ heq
    cases heq
    exact hcall.deletable hid hplaced
  ended hid hplaced hrecorded hend := hplaced.ended hid hrecorded hend

/-- However drives interleave, a record is deleted only for a create, by the
release, under the run's own id and once the create was answered; or for a
delete, by FINALIZE_RESOURCE, under the vendor id the run was triggered with and
once an engine run of the run was reported to have succeeded. -/
theorem deletes_only_its_own (engines : List WorkflowEngineType) (retryBase : Time)
    (defaultTeam : String) (clock : Time) (moves : List (Move system)) :
    let world := (reached (.wired engines retryBase defaultTeam) clock moves).world
    ∀ newer drive issuer projectId resourceType vendorId answer applied older,
      world.history = newer ++ .called drive issuer
        (.deleteResource projectId resourceType vendorId) answer applied :: older →
      ∃ origin resource, .created origin ∈ older ∧ origin.runId = drive.subject ∧
        (∀ other, .created other ∈ world.history → other.runId = drive.subject → other = origin) ∧
        origin.runState.resource = some resource ∧ projectId = resource.projectId ∧
        resourceType = resource.resourceType ∧
        (origin.runState.operation = .create ∧ issuer = .release ∧
            vendorId = drive.subject.str ∧ CreateAnswered drive.subject older ∨
          origin.runState.operation = .delete ∧ issuer = .step .finalizeResource ∧
            vendorId = resource.vendorId ∧ Succeeded drive.subject older) := by
  intro world newer drive issuer projectId resourceType vendorId answer applied older hhistory
  have hplacing : (placing engines).account.Inv world := Upkeep.reached_inv _ rfl clock moves
  have hordered : (inOrder engines).account.Inv world := Narrative.reached_inv _ rfl clock moves
  have hplaced := hplacing.kept
  have hkept := hordered.kept
  rw [hhistory] at hplaced hkept
  obtain ⟨origin, resource, hcreated, hid, hresource, hproject, htype, hcase⟩ :=
    hplaced.event drive issuer projectId resourceType vendorId answer applied rfl
  have hmem : .created origin ∈ world.history := by
    rw [hhistory]
    exact List.mem_append_right _ (List.mem_cons_of_mem _ hcreated)
  refine ⟨origin, resource, hcreated, hid, fun other hother hotherId => ?_, hresource, hproject,
    htype, ?_⟩
  · exact hplacing.unique other origin hother hmem (hotherId.trans hid.symm)
  · rcases hcase with ⟨hcreate, hrelease, hvendor, hanswered⟩ | ⟨hdelete, hstep, hvendor⟩
    · exact .inl ⟨hcreate, hrelease, hid ▸ hvendor, hanswered⟩
    · subst hstep
      obtain ⟨-, hfinalize, -⟩ := hkept.event
      exact .inr ⟨hdelete, rfl, hvendor, hfinalize (.delete _ _ _ _)⟩

def ticketDenied (call : Call) : call.Answer :=
  match call with
  | .getApprovalStatus _ => .ok .rejected
  | call => willing call

/-- A drive of a create whose ticket is denied. -/
def denying : List (Move system) :=
  .outside (.trigger sampleId (some resourceWorkflow) resourceSample) ::
  .start sampleId :: List.replicate 20 (.advance 0 { answer := ticketDenied })

/-- The placeholder is deleted, of a create of the project. -/
theorem deletes_only_its_own_denying :
    ∃ origin resource, .created origin ∈ (reached sampleExecutor 0 denying).world.history.drop 2 ∧
      origin.runState.resource = some resource ∧ "p" = resource.projectId ∧
      (origin.runState.operation = .create ∨ origin.runState.operation = .delete) := by
  obtain ⟨origin, resource, hcreated, -, -, hresource, hproject, -, hcase⟩ :=
    deletes_only_its_own [.airflow] (seconds 10) "cloud" 0 denying
      ((reached sampleExecutor 0 denying).world.history.take 1) ⟨sampleId, 0⟩ .release "p" "vm"
      sampleId.str (.ok ()) true ((reached sampleExecutor 0 denying).world.history.drop 2) rfl
  exact ⟨origin, resource, hcreated, hresource, hproject,
    hcase.imp (fun hcreate => hcreate.1) fun hdelete => hdelete.1⟩

end CloudioOrchestrator

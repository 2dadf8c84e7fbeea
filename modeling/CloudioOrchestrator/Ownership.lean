import CloudioOrchestrator.Deletions

/-! # Whose record a run writes to

An update or delete names two identities of the record it is about: the resource
manager's own id, which one record has, and the vendor id, which several may
share. Every write of a run addresses its record by the second.
-/

namespace CloudioOrchestrator

open Interaction

/-- A record as the resource manager identifies it. -/
structure Record where
  resourceId : String
  projectId : String
  resourceType : String
  vendorId : String
deriving DecidableEq, Repr

/-- The record carries the vendor id, among those of the project and type. -/
def Record.Carries (record : Record) (projectId resourceType vendorId : String) : Prop :=
  record.projectId = projectId ∧ record.resourceType = resourceType ∧ record.vendorId = vendorId

/-- What a write to an existing record is addressed to. -/
def Call.address : Call → Option (String × String × String)
  | .updateResource projectId resourceType vendorId _
  | .deleteResource projectId resourceType vendorId => some (projectId, resourceType, vendorId)
  | _ => none

/-- A resource manager: what it holds at each point of a history, and which record
a write acts on then, if it acts on any: one that carries the vendor id. -/
structure Manager where
  content : History → List Record
  acts : History → String × String × String → Option Record
  carries : ∀ {older projectId resourceType vendorId record},
    acts older (projectId, resourceType, vendorId) = some record →
      record ∈ content older ∧ record.Carries projectId resourceType vendorId

/-- The call is made to the record that the run was triggered with. -/
def AddressedTo (resource : ResourceSpec) (call : Call) : Prop :=
  ∀ address, call.address = some address →
    address = (resource.projectId, resource.resourceType, resource.vendorId)

/-- Unless it creates one, the run of the drive was triggered with the resource that
the call is made to. -/
def AsTriggered (drive : DriveId) (call : Call) (older : History) : Prop :=
  ∃ origin, .created origin ∈ older ∧ origin.runId = drive.subject ∧
    (origin.runState.operation ≠ .create →
      ∀ resource, origin.runState.resource = some resource → AddressedTo resource call)

/-- The run has the resource it was triggered with, unless it creates one. -/
def Original (run : WorkflowRun) (history : History) : Prop :=
  run.runState.operation ≠ .create → ∃ origin, .created origin ∈ history ∧
    origin.runId = run.runId ∧ origin.runState.operation = run.runState.operation ∧
    origin.runState.resource = run.runState.resource

section Original

variable {run changed : WorkflowRun} {drive : DriveId} {older history : History} {call : Call}

theorem Original.grows (event : Event) (horiginal : Original run older) :
    Original run (event :: older) := by
  intro hexisting
  obtain ⟨origin, hcreated, horigin⟩ := horiginal hexisting
  exact ⟨origin, List.mem_cons_of_mem _ hcreated, horigin⟩

theorem Original.congr (horiginal : Original run history) (hid : run.runId = changed.runId)
    (hoperation : run.runState.operation = changed.runState.operation)
    (hresource : run.runState.operation ≠ .create →
      run.runState.resource = changed.runState.resource) : Original changed history := by
  intro hexisting
  have hexisting : run.runState.operation ≠ .create := hoperation ▸ hexisting
  obtain ⟨origin, hcreated, horiginId, horiginOperation, horigin⟩ := horiginal hexisting
  exact ⟨origin, hcreated, horiginId.trans hid, horiginOperation.trans hoperation,
    horigin.trans (hresource hexisting)⟩

/-- What such a run addresses by its resource is what it was triggered with. -/
theorem Original.asTriggered (hid : run.runId = drive.subject) (horigin : HasOrigin run older)
    (horiginal : Original run older)
    (hcall : ∀ resource, run.runState.resource = some resource → AddressedTo resource call) :
    AsTriggered drive call older := by
  by_cases hcreate : run.runState.operation = .create
  · obtain ⟨origin, hcreated, -, ⟨horiginId, -⟩, -, -, -, hoperation, -⟩ := horigin
    exact ⟨origin, hcreated, horiginId.trans hid,
      fun hexisting => absurd (hoperation.trans hcreate) hexisting⟩
  · obtain ⟨origin, hcreated, horiginId, -, hresource⟩ := horiginal hcreate
    refine ⟨origin, hcreated, horiginId.trans hid, fun _ resource hnamed => ?_⟩
    exact hcall resource (hresource ▸ hnamed)

theorem asTriggered_of_address (hid : run.runId = drive.subject) (horigin : HasOrigin run older)
    (hcall : call.address = none) : AsTriggered drive call older := by
  obtain ⟨origin, hcreated, -, ⟨horiginId, -⟩, -⟩ := horigin
  refine ⟨origin, hcreated, horiginId.trans hid, fun _ resource _ address haddress => ?_⟩
  rw [hcall] at haddress
  cases haddress

end Original

section Releases

variable {run : WorkflowRun} {drive : DriveId} {older : History} {step : StepName} {issuer : Issuer}
  {call : Call}

theorem addressedTo_patchCall (resource : ResourceSpec) (fields : ResourceFields) :
    AddressedTo resource (patchCall resource fields) := by
  intro address haddress
  exact (Option.some.inj haddress).symm

theorem addressedTo_deleteCall (resource : ResourceSpec) :
    AddressedTo resource (deleteCall resource) := by
  intro address haddress
  exact (Option.some.inj haddress).symm

/-- A run that is not finalized has the resource it was triggered with. -/
theorem Placed.original (hplaced : Placed run older)
    (hnew : run.runState.resourceFinalized = false) : Original run older :=
  (hplaced hnew).2

theorem AsideCall.asTriggered (hid : run.runId = drive.subject) (horigin : HasOrigin run older)
    (hplaced : Placed run older) (hcall : AsideCall run.runState issuer call) :
    AsTriggered drive call older := by
  cases hcall with
  | incident request => exact asTriggered_of_address hid horigin rfl
  | aftermath hcall =>
      cases hcall with
      | release hcall =>
          cases hcall with
          | delete hflight hcreate =>
              obtain ⟨hresource, -, hnew⟩ := resourceInFlight_eq_some hflight
              apply (hplaced.original hnew).asTriggered hid horigin
              intro resource hnamed
              obtain rfl := Option.some.inj (hresource.symm.trans hnamed)
              exact addressedTo_deleteCall _
          | ready hflight hexisting =>
              obtain ⟨hresource, -, hnew⟩ := resourceInFlight_eq_some hflight
              apply (hplaced.original hnew).asTriggered hid horigin
              intro resource hnamed
              obtain rfl := Option.some.inj (hresource.symm.trans hnamed)
              exact addressedTo_patchCall _ _
      | _ => exact asTriggered_of_address hid horigin rfl

/-- But for the first mark, a step writes to a record only until it has finalized it. -/
theorem HandlerCall.asTriggered (hid : run.runId = drive.subject) (horigin : HasOrigin run older)
    (hplaced : Placed run older) (hstep : step ≠ .configureResource)
    (hcall : HandlerCall run run.runState step call) : AsTriggered drive call older := by
  cases hcall with
  | createResource | markResource => exact absurd rfl hstep
  | finalize hresource hnew | markDeleted hresource hnew =>
      apply (hplaced.original hnew).asTriggered hid horigin
      intro resource hnamed
      obtain rfl := Option.some.inj (hresource.symm.trans hnamed)
      exact addressedTo_patchCall _ _
  | delete hresource hnew hdelete =>
      apply (hplaced.original hnew).asTriggered hid horigin
      intro resource hnamed
      obtain rfl := Option.some.inj (hresource.symm.trans hnamed)
      exact addressedTo_deleteCall _
  | _ => exact asTriggered_of_address hid horigin rfl

/-- Finalizations and releases are addressed as triggered. -/
def addressing (engines : List WorkflowEngineType) : Upkeep engines where
  fact := ⟨Placed, fun event hplaced => hplaced.grows event⟩
  event event older := ∀ drive issuer call answer applied,
    event = .called drive issuer call answer applied → issuer ≠ .step .configureResource →
    AsTriggered drive call older
  steady hplaced hsame hprogress := hplaced.congr hsame hprogress
  born hrun := .born hrun
  created _ _ := by simp
  loaded _ _ _ := by simp
  saved _ _ _ := by simp
  logged _ _ _ := by simp
  aside answer applied hid horigin hplaced hcall := by
    intro drive issuer call _ _ heq _
    cases heq
    exact hcall.asTriggered hid horigin hplaced
  called {drive} step run call older answer applied hid horigin hplaced hcall := by
    intro other issuer called _ _ heq hissuer
    cases heq
    exact hcall.asTriggered hid horigin hplaced (fun hstep => hissuer (hstep ▸ rfl))
  ended hid hplaced hrecorded hend := hplaced.ended hid hrecorded hend

end Releases

section Marks

variable {engines : List WorkflowEngineType} {step : StepName}

/-- The steps up to the one that first writes to the record. -/
def Opening (step : StepName) : Prop :=
  step = .createTicket ∨ step = .configureResource

instance : DecidablePred Opening := fun step =>
  inferInstanceAs (Decidable (step = .createTicket ∨ step = .configureResource))

theorem opening_of_following {runType : RunType} {next : StepName} {rest : List StepName}
    (hnext : following (runPlans runType) step = next :: rest) (hopening : Opening next) :
    Opening step := by
  cases runType <;> cases step <;> cases hnext <;> revert hopening <;> decide

/-- Such a step leaves the resource that it finds. -/
theorem HandlerEnd.resource_of_opening {run : WorkflowRun} {state final : RunState}
    {trace : Trace Providers} {outcome : Except PyException Bool} (hopening : Opening step)
    (hexisting : state.operation ≠ .create)
    (hend : HandlerEnd engines run state step trace outcome final) :
    final.resource = state.resource := by
  cases hend with
  | resourceCreated resourceId hnew hresource hcreate => exact absurd hcreate hexisting
  | createRefused error hnew hresource hcreate => exact absurd hcreate hexisting
  | _ => first | rfl | exact absurd hopening (by decide)

/-- Until it is marked, the run has the resource it was triggered with. -/
def untouched (step : StepName) : Fact where
  holds run history := Opening step → Original run history
  grows event horiginal hopening := (horiginal hopening).grows event

theorem untouched_congr {run changed : WorkflowRun} {history : History}
    (hrun : untouched step run history) (hid : run.runId = changed.runId)
    (hoperation : run.runState.operation = changed.runState.operation)
    (hresource : run.runState.resource = changed.runState.resource) :
    untouched step changed history := fun hopening =>
  (hrun hopening).congr hid hoperation fun _ => hresource

/-- The mark of an update or delete is addressed as triggered. -/
def marking (engines : List WorkflowEngineType) : Narrative engines where
  before := untouched
  tried step _ := untouched step
  after := untouched
  done := .only fun _ => True
  event event older := ∀ drive call answer applied,
    event = .called drive (.step .configureResource) call answer applied →
    AsTriggered drive call older
  before_steady := by
    rintro step run changed history hrun ⟨hsame, _, _, _, hstate⟩
    exact untouched_congr hrun hsame.1 (by rw [hstate]) (by rw [hstate])
  done_steady _ _ := trivial
  born {run older} hrun _ _ := ⟨run, List.mem_cons_self, rfl, rfl, rfl⟩
  created _ _ := by simp
  loaded _ _ _ := by simp
  saved _ _ _ _ := by simp
  logged _ _ _ _ := by simp
  aside drive state issuer call answer applied older hcall := by
    intro other called _ _ heq
    cases heq
    cases hcall with
    | aftermath hcall => cases hcall
  called {drive step run call older} answer applied hid horigin hbefore hcall := by
    intro other called _ _ heq
    cases heq
    have horiginal := hbefore (.inr rfl)
    cases hcall with
    | createResource hnew hresource hcreate => exact asTriggered_of_address hid horigin rfl
    | markResource hnew hresource hexisting =>
        apply horiginal.asTriggered hid horigin
        intro resource hnamed
        obtain rfl := Option.some.inj (hresource.symm.trans hnamed)
        exact addressedTo_patchCall _ _
  deadline _ hbefore := hbefore
  ended {drive step run trace outcome final history} _ hbefore _ hend hopening := by
    refine (hbefore hopening).congr rfl ?_ fun hexisting => ?_
    · exact hend.sameRequest.2.2.2.1
    · exact (hend.resource_of_opening hopening hexisting).symm
  poll htried := htried
  retry {step handler error run history} hhandler htried _ := by
    obtain ⟨-, -, -, hoperation, -, hresource, -⟩ := retryState_sameProgress hhandler run.runState
    exact untouched_congr htried rfl hoperation hresource
  completed _ _ htried := ⟨by simp, untouched_congr ((untouched _).grows _ htried) rfl rfl rfl⟩
  next hpassed _ hnext hopening := hpassed (opening_of_following hnext hopening)
  finish _ _ _ := trivial

end Marks

section Runs

/-- Every write of the run acts, if it acts at all, on the record with that id. -/
def WritesOnlyTo (manager : Manager) (runId : UUID) (resourceId : String)
    (history : History) : Prop :=
  ∀ newer drive issuer call answer address record older,
    history = newer ++ .called drive issuer call answer true :: older → drive.subject = runId →
    call.address = some address → manager.acts older address = some record →
    record.resourceId = resourceId

/-- Whenever a write of the run takes effect, no other record carries the vendor id
that it was triggered with. -/
def Unshared (content : History → List Record) (runId : UUID) (resource : ResourceSpec)
    (history : History) : Prop :=
  ∀ newer drive issuer call answer address older,
    history = newer ++ .called drive issuer call answer true :: older → drive.subject = runId →
    call.address = some address → ∀ record ∈ content older,
    record.Carries resource.projectId resource.resourceType resource.vendorId →
    record.resourceId = resource.resourceId

/-- However drives interleave, every write of an update or delete is addressed by the
vendor id that it was triggered with. -/
theorem reached_address (engines : List WorkflowEngineType) (retryBase : Time)
    (defaultTeam : String)
    (clock : Time) (moves : List (Move system)) {origin : WorkflowRun} {resource : ResourceSpec}
    {newer older : History} {drive : DriveId} {issuer : Issuer} {call : Call} {answer : call.Answer}
    {applied : Bool} {address : String × String × String}
    (hhistory : (reached (.wired engines retryBase defaultTeam) clock moves).world.history =
      newer ++ .called drive issuer call answer applied :: older)
    (hcreated : .created origin ∈
      (reached (.wired engines retryBase defaultTeam) clock moves).world.history)
    (hexisting : origin.runState.operation ≠ .create)
    (hresource : origin.runState.resource = some resource) (hid : drive.subject = origin.runId)
    (haddress : call.address = some address) :
    address = (resource.projectId, resource.resourceType, resource.vendorId) := by
  have haddressing : (addressing engines).account.Inv
      (reached (.wired engines retryBase defaultTeam) clock moves).world :=
    Upkeep.reached_inv _ rfl clock moves
  have hmarking : (marking engines).account.Inv
      (reached (.wired engines retryBase defaultTeam) clock moves).world :=
    Narrative.reached_inv _ rfl clock moves
  have hwrites := haddressing.kept
  have hmarks := hmarking.kept
  rw [hhistory] at hwrites hmarks
  have htriggered : AsTriggered drive call older := by
    by_cases hissuer : issuer = .step .configureResource
    · subst hissuer
      exact hmarks.event drive call answer applied rfl
    · exact hwrites.event drive issuer call answer applied rfl hissuer
  obtain ⟨found, hfound, hfoundId, hsame⟩ := htriggered
  have hmem : .created found ∈
      (reached (.wired engines retryBase defaultTeam) clock moves).world.history := by
    rw [hhistory]
    exact List.mem_append_right _ (List.mem_cons_of_mem _ hfound)
  obtain rfl := haddressing.unique found origin hmem hcreated (hfoundId.trans hid)
  exact hsame hexisting resource hresource address haddress

/-- An update or delete writes to no record but the one it was triggered for, whichever
records its resource manager picks, exactly where no other record carries the same vendor
id when it writes. -/
theorem writes_only_to_its_own_iff (engines : List WorkflowEngineType) (retryBase : Time)
    (defaultTeam : String) (clock : Time) (moves : List (Move system)) (origin : WorkflowRun)
    (resource : ResourceSpec) (content : History → List Record) :
    let history := (reached (.wired engines retryBase defaultTeam) clock moves).world.history
    .created origin ∈ history → origin.runState.operation ≠ .create →
    origin.runState.resource = some resource →
    ((∀ manager : Manager, manager.content = content →
        WritesOnlyTo manager origin.runId resource.resourceId history) ↔
      Unshared content origin.runId resource history) := by
  intro history hcreated hexisting hresource
  constructor
  · intro howns newer drive issuer call answer address older hhistory hid haddress record hrecord
      hcarries
    obtain rfl :=
      reached_address engines retryBase defaultTeam clock moves hhistory hcreated hexisting
      hresource hid haddress
    -- a resource manager that picks this record for every write that names it
    classical
    let manager : Manager :=
      { content := content
        acts := fun before address =>
          if before = older ∧
              address = (resource.projectId, resource.resourceType, resource.vendorId) then
            some record
          else none
        carries := by
          intro before projectId resourceType vendorId found hfound
          split at hfound
          next hnamed =>
            obtain ⟨rfl, heq⟩ := hnamed
            cases heq
            obtain rfl := Option.some.inj hfound
            exact ⟨hrecord, hcarries⟩
          next => cases hfound }
    exact howns manager rfl newer drive issuer call answer _ record older hhistory hid haddress
      (if_pos ⟨rfl, rfl⟩)
  · rintro hunshared manager rfl newer drive issuer call answer address record older hhistory hid
      haddress hacts
    obtain rfl :=
      reached_address engines retryBase defaultTeam clock moves hhistory hcreated hexisting
      hresource hid haddress
    obtain ⟨hrecord, hcarries⟩ := manager.carries hacts
    exact hunshared newer drive issuer call answer _ older hhistory hid haddress record
      hrecord hcarries

end Runs

section Examples

/-- A request to delete a record, and the first calls of its run. -/
def markingSample : List (Move system) :=
  .outside (.trigger sampleId (some resourceWorkflow) deletionSample) ::
  .start sampleId :: List.replicate 13 (.advance 0 { answer := willing })

def markingOrigin : WorkflowRun :=
  triggered 0 sampleId resourceWorkflow deletionSample

def ownRecord : Record :=
  { resourceId := "7", projectId := "p", resourceType := "vm", vendorId := "vm-7" }

/-- The record of another region, say. -/
def twinRecord : Record :=
  { ownRecord with resourceId := "8" }

/-- A manager that always holds the same records, and acts on the last one of a vendor id. -/
def lastOf (records : List Record) : Manager where
  content _ := records
  acts _ address := (records.filter fun record =>
    (record.projectId, record.resourceType, record.vendorId) = address).getLast?
  carries := by
    intro older projectId resourceType vendorId record hacts
    have hmem := List.mem_of_getLast? hacts
    simpa [Record.Carries] using hmem

theorem markingOrigin_created :
    .created markingOrigin ∈ (reached sampleExecutor 0 markingSample).world.history :=
  List.mem_of_getElem? (i := 5) rfl

/-- Where one record has the vendor id, it is the one written to. -/
theorem writes_only_to_its_own_sole :
    WritesOnlyTo (lastOf [ownRecord]) sampleId "7"
      (reached sampleExecutor 0 markingSample).world.history :=
  (writes_only_to_its_own_iff [.airflow] (seconds 10) "cloud" 0 markingSample markingOrigin
    { projectId := "p", resourceType := "vm", vendorId := "vm-7", resourceId := "7",
      name := "vm-1" }
    (fun _ => [ownRecord]) markingOrigin_created (by decide) rfl).mpr
    (fun _ _ _ _ _ _ _ _ _ _ record hrecord _ => by
      obtain rfl := List.mem_singleton.mp hrecord
      rfl) (lastOf [ownRecord]) rfl

/-- Where two have it, the run may mark the other one as being deleted. -/
theorem writes_to_another :
    .created markingOrigin ∈ (reached sampleExecutor 0 markingSample).world.history ∧
      checkTrigger resourceWorkflow.runType deletionSample = .ok () ∧
      ¬ WritesOnlyTo (lastOf [ownRecord, twinRecord]) markingOrigin.runId "7"
        (reached sampleExecutor 0 markingSample).world.history := by
  refine ⟨markingOrigin_created, rfl, fun howns => ?_⟩
  have hwritten := howns _ ⟨sampleId, 0⟩ (.step .configureResource)
    (.updateResource "p" "vm" "vm-7" (resourceStateFields .deleting)) (.ok ()) ("p", "vm", "vm-7")
    twinRecord ((reached sampleExecutor 0 markingSample).world.history.drop 2)
    (List.take_append_drop 1 (reached sampleExecutor 0 markingSample).world.history).symm
      rfl rfl rfl
  exact absurd hwritten (by decide)

end Examples

end CloudioOrchestrator

import CloudioOrchestrator.Account
import CloudioOrchestrator.Api
import CloudioOrchestrator.Upkeep
import CloudioOrchestrator.Fleet
import CloudioOrchestrator.Interaction.Following

/-! # The API beside the drives

Any number of requests in flight, each a program over its own statements, and the
drives of the runs that they create, over one database. What is filed in the
registry is kept newest first, with who filed it; no statement reads it.
-/

namespace CloudioOrchestrator

open Interaction

/-- A request in flight: what was asked, and which of the requests it is. -/
abbrev VisitorId := Client Visitor

abbrev Filing := Registry.Filing VisitorId

/-- The two tables, and the drives over one of them. -/
structure Site where
  registry : Registry.Rows := []
  journal : List Filing := []
  /-- The requests that were answered that a statement of theirs failed. -/
  failures : List VisitorId := []
  drives : DrivePool

/-- The order of the rows that a query returns without asking for one. -/
structure Arrangement (α : Type) where
  order : List α → List α := id
  perm : ∀ rows, (order rows).Perm rows := by exact fun rows => .refl rows

/-- What the environment decides while one statement is executed: the random id, the
failures of the database, and the orders that it is free in. -/
structure Ruling where
  uuid : UUID
  fault : Option SaveFault := none
  registrations : Arrangement Registration := {}
  runs : Arrangement WorkflowRun := {}

/-- What goes on beside the requests. -/
inductive Backstage
  | start (runId : UUID)
  | advance (serial : Nat) (choice : Choice)
  | claimDue (limit : Nat) (lease : Time) (locked : UUID → Bool)
  | tick (now : Time)

def Backstage.move : Backstage → Move system
  | .start runId => .start runId
  | .advance serial choice => .advance serial choice
  | .claimDue limit lease locked => .outside (.claimDue limit lease locked)
  | .tick now => .outside (.tick now)

def Creation.event (runId : UUID) : Creation → Outside
  | .triggered workflow request => .trigger runId (some workflow) request
  | .legacy request => .triggerLegacy runId request

/-- The runs whose resource has the vendor id. -/
def Store.findByVendorId (vendorId : String) (rows : Store.Rows) : List WorkflowRun :=
  rows.filter fun row => row.runState.resource.map ResourceSpec.vendorId = some vendorId

namespace Site

variable (executor : Executor)

def runs (site : Site) : Store.Rows :=
  World.rows site.drives.world

def file (registry : Registry.Rows) (filing : Filing) (site : Site) : Site :=
  { site with registry := registry, journal := filing :: site.journal }

/-- A write that takes effect, and is answered unless the database fails after it. -/
def written {α : Type} (fault : Option SaveFault) (answer : α) (later : Site) :
    Except Registry.DbError α × Site :=
  match fault with
  | some _ => (.error .raised, later)
  | none => (.ok answer, later)

def insert (clerk : VisitorId) (ruling : Ruling) (workflow : Workflow) (site : Site) :
    Except Registry.DbError Registration × Site :=
  match ruling.fault with
  | some (.beforeCommit ..) => (.error .raised, site)
  | fault =>
    let row : Registration := ⟨ruling.uuid, workflow⟩
    match Registry.insert site.registry row with
    | .ok registry => written fault row (site.file registry (.registered clerk row))
    | .error .integrity =>
        if (Registry.getByIdentifier site.registry workflow.identifier).isSome then
          (.error .integrity, site)
        else (.error .integrity, site.file site.registry (.collided clerk ruling.uuid))
    | .error .raised => (.error .raised, site)

def update (clerk : VisitorId) (ruling : Ruling) (workflowId : UUID) (patch : WorkflowPatch)
    (site : Site) : Except Registry.DbError Unit × Site :=
  match ruling.fault with
  | some (.beforeCommit ..) => (.error .raised, site)
  | fault =>
    if !patch.storable then (.error .raised, site)
    else written fault () (site.file (Registry.write workflowId patch site.registry)
      (.updated clerk workflowId patch))

/-- Something that comes to the runs from outside their drives. -/
def act (event : Outside) (site : Site) : Site :=
  { site with drives := site.drives.step executor.handle (.outside event) }

/-- Create a run under a random id; a taken id is refused. -/
def create (ruling : Ruling) (creation : Creation) (site : Site) :
    Except Registry.DbError WorkflowRun × Site :=
  match ruling.fault with
  | some (.beforeCommit ..) => (.error .raised, site)
  | fault =>
    if (Store.get site.runs ruling.uuid).isSome then (.error .raised, site)
    else
      let later := site.act executor (creation.event ruling.uuid)
      match Store.get later.runs ruling.uuid with
      | some run => written fault run later
      | none => (.error .raised, site)

def read {α : Type} (ruling : Ruling) (value : α) (site : Site) :
    Except Registry.DbError α × Site :=
  match ruling.fault with
  | some _ => (.error .raised, site)
  | none => (.ok value, site)

def wake (ruling : Ruling) (runId : UUID) (site : Site) : Except Registry.DbError Bool × Site :=
  match ruling.fault with
  | some (.beforeCommit ..) => (.error .raised, site)
  | fault =>
    written fault (Store.wake (World.clock site.drives.world) runId site.runs).1
      (site.act executor (.wake runId))

/-- What a statement came to; who is answered that it failed is noted. -/
def told {α : Type} (clerk : VisitorId) :
    Except Registry.DbError α × Site → Except Registry.DbError α × Site
  | (.error .raised, later) =>
      (.error .raised, { later with failures := clerk :: later.failures })
  | outcome => outcome

def serve (clerk : VisitorId) (ruling : Ruling) :
    (statement : Statement) → Site → statement.Answer × Site
  | .workflowsInsert workflow, site => told clerk (site.insert clerk ruling workflow)
  | .workflowsSelect identifier, site =>
      told clerk (site.read ruling (Registry.getByIdentifier site.registry identifier))
  | .workflowsUpdate workflowId patch, site =>
      told clerk (site.update clerk ruling workflowId patch)
  | .workflowsList, site =>
      told clerk (site.read ruling (ruling.registrations.order site.registry))
  | .runsCreate creation, site => told clerk (site.create executor ruling creation)
  | .runsGet runId, site => told clerk (site.read ruling (Store.get site.runs runId))
  | .runsFindByTicketId ticketId, site => told clerk
      (site.read ruling (ruling.runs.order (Store.findByTicketId ticketId site.runs)))
  | .runsFindByVendorId vendorId, site => told clerk
      (site.read ruling (ruling.runs.order (Store.findByVendorId vendorId site.runs)))
  | .runsFindByEngineRunId engineRunId, site => told clerk
      (site.read ruling (ruling.runs.order (Store.findByEngineRunId engineRunId site.runs)))
  | .runsListRecent limit, site => told clerk (site.read ruling (site.runs.take limit))
  | .runsWake runId, site => told clerk (site.wake executor ruling runId)

def backstage (event : Backstage) (site : Site) : Site :=
  { site with drives := site.drives.step executor.handle event.move }

section Told

variable {α : Type} {clerk : VisitorId} {outcome : Except Registry.DbError α × Site}

/-- What stands a failure's being noted stands what is told. -/
theorem told_keeps {holds : Site → Prop}
    (hnoted : ∀ site, holds site → holds { site with failures := clerk :: site.failures })
    (hlater : holds outcome.2) : holds (told clerk outcome).2 := by
  unfold told
  split
  · exact hnoted _ hlater
  · exact hlater

@[simp] theorem told_drives : (told clerk outcome).2.drives = outcome.2.drives := by
  unfold told
  split <;> rfl

/-- Who is answered that a statement failed is on record; other answers come as they are. -/
theorem told_cases {answer : Except Registry.DbError α} {later : Site}
    (htold : told clerk outcome = (answer, later)) :
    (answer = .error .raised ∧ clerk ∈ later.failures) ∨
      (outcome = (answer, later) ∧ answer ≠ .error .raised) := by
  unfold told at htold
  split at htold
  next =>
    cases htold
    exact .inl ⟨rfl, List.mem_cons_self⟩
  next hfine =>
    refine .inr ⟨htold, ?_⟩
    rintro rfl
    exact hfine _ htold

end Told

end Site

abbrev api (executor : Executor) : Service Statements Visitor where
  World := Site
  Choice := Ruling
  Outside := Backstage
  serve := Site.serve executor
  outside := Site.backstage executor

/-- The requests that were received, over the site as it stands. -/
abbrev Counter (executor : Executor) := Pool (api executor) Response

/-- What requests and drives reach together from an empty database. -/
def apiReached (executor : Executor) (authenticator : ApiKeyAuthenticator) (clock : Time)
    (moves : List (Move (api executor))) : Counter executor :=
  Pool.run authenticator.answer moves ⟨{ drives := ⟨{ clock := clock }, []⟩ }, []⟩

end CloudioOrchestrator

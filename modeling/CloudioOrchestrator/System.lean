import CloudioOrchestrator.Executor
import CloudioOrchestrator.Store
import CloudioOrchestrator.Services
import CloudioOrchestrator.Interaction.Pool

/-! # The orchestrator as a system

The store, the history of what happened, and the clock, as drives and the
outside share them. Providers, the database and the log are reached through the
operations of a drive; requests, claims, wakes and time come from outside.
A history is kept newest first and says who did what; no operation reads it.
-/

namespace CloudioOrchestrator

open Interaction

/-- A drive of a run: the run and which of the drives it is. -/
abbrev DriveId := Client UUID

inductive Event
  | created (run : WorkflowRun)
  | loaded (drive : DriveId) (run : WorkflowRun)
  /-- A provider call, and whether it took effect at the provider. -/
  | called (drive : DriveId) (issuer : Issuer) (call : Call) (answer : call.Answer)
      (applied : Bool)
  | logged (drive : DriveId) (record : LogRecord)
  | saved (drive : DriveId) (row : WorkflowRun)

abbrev History := List Event

structure World where
  rows : Store.Rows := []
  history : History := []
  clock : Time := 0

/-- A failing database, before or after a save was committed. -/
inductive SaveFault
  | beforeCommit (name message : String)
  | afterCommit (name message : String)

theorem jitter_within : seconds 1 ≤ seconds 1 ∧ seconds 1 ≤ seconds 5 := by
  decide

/-- What the environment decides while one operation is served: the answer of a
provider, whether a call that raises took effect all the same, the random
backoff, and the failures of the database. -/
structure Choice where
  answer : (call : Call) → call.Answer
  applied : Bool := false
  jitter : { time : Time // seconds 1 ≤ time ∧ time ≤ seconds 5 } := ⟨seconds 1, jitter_within⟩
  readFault : Option (String × String) := none
  saveFault : Option SaveFault := none

inductive Outside
  | trigger (runId : UUID) (workflow : Option Workflow) (request : TriggerRequest)
  | triggerLegacy (runId : UUID) (request : LegacyRunRequest)
  | claimDue (limit : Nat) (lease : Time) (locked : UUID → Bool)
  | wake (runId : UUID)
  | tick (now : Time)

namespace World

def record (event : Event) (world : World) : World :=
  { world with history := event :: world.history }

/-- Insert a run that was just created; a taken id is refused. -/
def insert (run : WorkflowRun) (world : World) : World :=
  if (Store.get world.rows run.runId).isSome then world
  else { world with
    rows := Store.create world.rows run
    history := .created run :: world.history }

def commit (drive : DriveId) (row : WorkflowRun) (world : World) : World :=
  { world with
    rows := Store.put world.rows row
    history := .saved drive row :: world.history }

def load (drive : DriveId) (choice : Choice) (runId : UUID) (world : World) :
    Op.Answer (.runsGet runId) × World :=
  match choice.readFault with
  | some (name, message) => (.error (.other name message), world)
  | none =>
    match Store.get world.rows runId with
    | some row => (.ok (some row), world.record (.loaded drive row))
    | none => (.ok none, world)

def save (drive : DriveId) (choice : Choice) (run : WorkflowRun) (world : World) :
    Op.Answer (.runsSave run) × World :=
  match choice.saveFault, Store.save world.rows run with
  | some (.beforeCommit name message), _ => (.error (.other name message), world)
  | _, .error error => (.error error, world)
  | some (.afterCommit name message), .ok row =>
      (.error (.other name message), world.commit drive row)
  | none, .ok row => (.ok row.version, world.commit drive row)

def serve (drive : DriveId) (choice : Choice) : (op : Op) → World → op.Answer × World
  | .runsGet runId, world => world.load drive choice runId
  | .runsSave run, world => world.save drive choice run
  | .utcnow, world => (world.clock, world)
  | .uniform, world => (choice.jitter.val, world)
  | .provider issuer call, world =>
      (choice.answer call, world.record (.called drive issuer call (choice.answer call)
        ((choice.answer call).isOk || choice.applied)))
  | .log record, world => ((), world.record (.logged drive record))

def outside : Outside → World → World
  | .trigger runId workflow request, world =>
      match trigger world.clock runId workflow request with
      | .ok run => world.insert run
      | .error _ => world
  | .triggerLegacy runId request, world => world.insert (triggerLegacy world.clock runId request)
  | .claimDue limit lease locked, world =>
      { world with rows := (Store.claimDue world.clock limit lease locked world.rows).2 }
  | .wake runId, world => { world with rows := (Store.wake world.clock runId world.rows).2 }
  | .tick now, world => { world with clock := now }

end World

abbrev system : Service Operations UUID where
  World := World
  Choice := Choice
  Outside := Outside
  serve := World.serve
  outside := World.outside

end CloudioOrchestrator

import CloudioOrchestrator.PythonJson
import CloudioOrchestrator.ServiceNow
import CloudioOrchestrator.Interaction.Alone
import CloudioOrchestrator.Queries.Encoded

/-! # Ordering tickets over HTTP

What the ticket system's adapter sends for a lookup, and for a ticket: the
catalog's order, and the requests around it that make ordering twice with one
key order once. Below it the instance itself: tables of rows that are found by
encoded queries, and requests that may be refused or lost on the way.
-/

namespace CloudioOrchestrator

open Interaction EncodedQuery

/-! ## The adapter -/

/-- What came back: a body, or the status of a refusal. -/
inductive Reply (α : Type)
  | ok (body : α)
  | refused (status : Nat)

/-- `raise_for_status`, and the body where it does not raise. -/
def Reply.raiseForStatus {α : Type} : Reply α → Except ProviderError α
  | .ok body => .ok body
  | .refused status => .error (.other "HTTPStatusError" (toString status))

/-- A row as a reply carries it: the fields that were asked for. -/
abbrev Fields := List (String × String)

/-- `row[key]`. -/
def Fields.item (row : Fields) (key : String) : Except ProviderError String :=
  match row.lookup key with
  | some value => .ok value
  | none => .error (.other "KeyError" ("'" ++ key ++ "'"))

def Fields.ticketRef (row : Fields) : Except ProviderError TicketRef := do
  let number ← row.item "number"
  let sysId ← row.item "sys_id"
  return ⟨number, sysId⟩

inductive HttpRequest
  /-- The first row of a table that a query selects. -/
  | get (table query : String) (fields : List String)
  | patch (table sysId : String) (body : Body)
  | orderNow (templateId : String) (fields : List (String × JsonValue)) (requestedFor : String)
  | postIncident (body : Body)
  /-- An operation that this adapter has no part in. -/
  | elsewhere (op : Op)

abbrev HttpRequest.Answer : HttpRequest → Type
  | .get .. => Except ProviderError (Reply (List Fields))
  | .patch .. => Except ProviderError (Reply Unit)
  | .orderNow .. | .postIncident _ => Except ProviderError (Reply Fields)
  | .elsewhere op => op.Answer

abbrev HttpApi : Signature where
  Op := HttpRequest
  Answer := HttpRequest.Answer

/-- The adapter's methods, over the group ids it remembers. -/
abbrev Desk := Routine HttpApi ProviderError Groups

namespace ServiceNow

/-- The system id of the first row there is. -/
def firstSysId : List Fields → Except ProviderError (Option String)
  | [] => .ok none
  | row :: _ => (row.item "sys_id").map some

/-- The exchange behind each request of a table. -/
def tables : Handler TableApi HttpApi Unit
  | .lookup table field value, _ =>
      .call (.get table (field ++ "=" ++ value) ["sys_id"]) fun answer =>
        .ret ((answer.bind Reply.raiseForStatus).bind firstSysId, ())
  | .patch table sysId body, _ =>
      .call (.patch table sysId body) fun answer => .ret (answer.bind Reply.raiseForStatus, ())
  | .postIncident body, _ =>
      .call (.postIncident body) fun answer =>
        .ret ((answer.bind Reply.raiseForStatus).bind Fields.ticketRef, ())
  | .elsewhere op, _ => .call (.elsewhere op) fun answer => .ret (answer, ())

/-- What the adapter does with tables, done by their exchanges. -/
def byTables {α : Type} (body : Adapter α) : Desk α := fun groups =>
  ((body groups).handled tables ()).bind fun ended => .ret ended.1

/-- The rows of a reply that is no refusal. -/
def getRows (table query : String) (fields : List String) : Desk (List Fields) := do
  let answer ← Routine.ask (S := HttpApi) (.get table query fields)
  let reply ← Routine.ofExcept answer
  Routine.ofExcept reply.raiseForStatus

/-- The ticket that was tagged with the key before, if one was. -/
def findRitm (key : String) : Desk (Option TicketRef) := do
  let rows ← getRows "sc_req_item" ("correlation_id=" ++ key) ["number", "sys_id"]
  match rows with
  | [] => return none
  | row :: _ => Routine.ofExcept (row.ticketRef.map some)

def approvalGroupVariable : String := "approval_group"

variable (client : ServiceNow)

/-- The variables of an order: the approval group's name is replaced by its id,
where it names a group. -/
def resolvedVariables (fields : List (String × JsonValue)) : Desk (List (String × JsonValue)) := do
  match fields.lookup approvalGroupVariable with
  | some (.string name) =>
    if name = "" then return fields
    else
      let found ← byTables (client.groupSysId name)
      match found with
      | none => return fields
      | some sysId => return PythonBuild.setEntry fields approvalGroupVariable (.string sysId)
  | _ => return fields

/-- Order a ticket, unless one is tagged with the key already. -/
def openTicket (templateId : String) (fields : List (String × JsonValue))
    (requestedBy idempotencyKey : String) : Desk TicketRef := do
  let found ← findRitm idempotencyKey
  match found with
  | some ticket => return ticket
  | none =>
    -- both lookups come before the order, so that little lies between it and its tag
    let requestedFor ← byTables (client.userSysId requestedBy)
    let ordered ← client.resolvedVariables fields
    let answer ← Routine.ask (S := HttpApi) (.orderNow templateId ordered requestedFor)
    let order ← Routine.ofExcept answer
    let result ← Routine.ofExcept order.raiseForStatus
    let requestId ← Routine.ofExcept (result.item "sys_id")
    let rows ← getRows "sc_req_item" ("request=" ++ requestId) ["number", "sys_id"]
    match rows with
    | [] => Routine.raise (.other "IndexError" "list index out of range")
    | row :: _ =>
      let number ← Routine.ofExcept (row.item "number")
      let sysId ← Routine.ofExcept (row.item "sys_id")
      let tag ← Routine.ask (S := HttpApi)
        (.patch "sc_req_item" sysId [("correlation_id", .text idempotencyKey)])
      -- the reply itself is not looked at
      let _ ← Routine.ofExcept tag
      return ⟨number, sysId⟩

end ServiceNow

/-! ## The instance -/

/-- A row of a table, by its columns; a column without a value reads as empty. -/
abbrev TableRow := String → String

def TableRow.of (columns : List (String × String)) : TableRow := fun column =>
  (columns.lookup column).getD ""

def BodyValue.column : BodyValue → String
  | .text value => value
  | .number value => toString value
  | .flag value => toString value

def TableRow.write (row : TableRow) (body : Body) : TableRow :=
  body.foldl (fun row entry => Function.update row entry.1 entry.2.column) row

structure Instance where
  rows : String → List TableRow
  /-- The requests that were sent, newest first. -/
  sent : List HttpRequest := []

/-- What may happen to an exchange; the request may have taken effect all the same. -/
inductive Fault
  | refused (status : Nat) (applied : Bool)
  | raised (name message : String) (applied : Bool)

def Fault.applied : Fault → Bool
  | .refused _ applied | .raised _ _ applied => applied

def Fault.reply {α : Type} : Fault → Except ProviderError (Reply α)
  | .refused status _ => .ok (.refused status)
  | .raised name message _ => .error (.other name message)

/-- What is decided while an exchange is served: how it fails, if it does, and
the ids of what it creates. -/
structure Circumstance where
  fault : HttpRequest → Option Fault := fun _ => none
  requestId : String := ""
  sysId : String := ""
  number : String := ""
  elsewhere : (op : Op) → op.Answer

namespace Instance

variable (dialect : Dialect TableRow)

/-- The ids are new; none has a character that queries are joined by. -/
def issues (choice : Circumstance) (rows : List TableRow) : Bool :=
  rows.all (fun row => row "sys_id" ≠ choice.sysId ∧ row "request" ≠ choice.requestId) &&
    '^' ∉ choice.requestId.toList

def withRows (world : Instance) (table : String) (rows : List TableRow) : Instance :=
  { world with rows := Function.update world.rows table rows }

/-- A new row of a table, where its ids are new. -/
def insert (choice : Circumstance) (table : String) (row : TableRow) (result : Fields)
    (world : Instance) : Except ProviderError (Reply Fields) × Instance :=
  if issues choice (world.rows table) then
    (.ok (.ok result), world.withRows table (world.rows table ++ [row]))
  else (.ok (.refused 500), world)

/-- A request served, as long as nothing comes between. -/
def perform (choice : Circumstance) :
    (request : HttpRequest) → Instance → request.Answer × Instance
  | .get table query fields, world =>
      (.ok (.ok ((dialect.first query (world.rows table)).toList.map fun row =>
        fields.map fun field => (field, row field))), world)
  | .patch table sysId body, world =>
      if (world.rows table).any fun row => row "sys_id" = sysId then
        (.ok (.ok ()), world.withRows table ((world.rows table).map fun row =>
          if row "sys_id" = sysId then row.write body else row))
      else (.ok (.refused 404), world)
  | .orderNow templateId _ requestedFor, world =>
      world.insert choice "sc_req_item"
        (.of [("sys_id", choice.sysId), ("number", choice.number), ("request", choice.requestId),
          ("cat_item", templateId), ("requested_for", requestedFor)])
        [("sys_id", choice.requestId)]
  | .postIncident body, world =>
      world.insert choice "incident"
        ((TableRow.of [("sys_id", choice.sysId), ("number", choice.number)]).write body)
        [("number", choice.number), ("sys_id", choice.sysId)]
  | .elsewhere op, world => (choice.elsewhere op, world)

/-- What is answered when the exchange fails. -/
def failing (fault : Fault) : (request : HttpRequest) → request.Answer → request.Answer
  | .get .., _ => fault.reply
  | .patch .., _ => fault.reply
  | .orderNow .., _ => fault.reply
  | .postIncident _, _ => fault.reply
  | .elsewhere _, answer => answer

def serve (choice : Circumstance) (request : HttpRequest) (world : Instance) :
    request.Answer × Instance :=
  let asked := { world with sent := request :: world.sent }
  let served := asked.perform dialect choice request
  match choice.fault request with
  | none => served
  | some fault => (failing fault request served.1, if fault.applied then served.2 else asked)

end Instance

abbrev instanceService (dialect : Dialect TableRow) : Service HttpApi Unit where
  World := Instance
  Choice := Circumstance
  Outside := Empty
  serve _ choice request world := world.serve dialect choice request
  outside event := nomatch event

end CloudioOrchestrator
